import GeoFilter.Proofs.Parser.Outcome

set_option autoImplicit false

/-! # Where errors point

A parser step is handed tokens that stand in the source and hands such tokens on, and if it fails,
its error points at one of them, or at the end of the source. `Located` says so of a step, and is
kept by sequencing; the parsing functions are put together from that. -/

namespace GeoFilter.Cql

/-! ## Positions in a source -/

/-- A text stands in the source from a byte offset on: whole characters come before it. -/
def StandsAt (source : String) (offset : Nat) (text : String) : Prop :=
  ∃ before after, source = before ++ text ++ after ∧ before.utf8ByteSize = offset

section

variable {source text : String} {offset : Nat}

theorem StandsAt.le (h : StandsAt source offset text) : offset ≤ source.utf8ByteSize := by
  obtain ⟨before, after, rfl, rfl⟩ := h
  rw [String.utf8ByteSize_append, String.utf8ByteSize_append]
  omega

theorem StandsAt.isValid (h : StandsAt source offset text) :
    (String.Pos.Raw.mk offset).IsValid source := by
  obtain ⟨before, after, rfl, rfl⟩ := h
  rw [String.Pos.Raw.isValid_iff_exists_append]
  exact ⟨before, text ++ after, String.append_assoc, rfl⟩

/-- Where a text stands, there is a position. -/
theorem StandsAt.empty (h : StandsAt source offset text) : StandsAt source offset "" := by
  obtain ⟨before, after, rfl, rfl⟩ := h
  exact ⟨before, text ++ after, by rw [String.append_empty, String.append_assoc], rfl⟩

theorem standsAt_start (source : String) : StandsAt source 0 "" := ⟨"", source, by simp, rfl⟩

theorem standsAt_end (source : String) : StandsAt source source.utf8ByteSize "" :=
  ⟨source, "", by simp, rfl⟩

end

/-- A token stands in the source where its offset says. -/
def Token.StandsIn (t : Token) (source : String) : Prop := StandsAt source t.offset t.lexeme

/-- All of the tokens stand in the source. -/
def AllStand (source : String) (ts : List Token) : Prop := ∀ t ∈ ts, t.StandsIn source

theorem AllStand.head {source : String} {t : Token} {ts : List Token}
    (h : AllStand source (t :: ts)) : t.StandsIn source := h t List.mem_cons_self

theorem AllStand.tail {source : String} {t : Token} {ts : List Token}
    (h : AllStand source (t :: ts)) : AllStand source ts :=
  fun t' hMem => h t' (List.mem_cons_of_mem t hMem)

theorem allStand_cons {source : String} {t : Token} {ts : List Token} (ht : t.StandsIn source)
    (h : AllStand source ts) : AllStand source (t :: ts) := by
  intro t' hMem
  rcases List.mem_cons.1 hMem with rfl | hMem
  · exact ht
  · exact h t' hMem

theorem allStand_nil (source : String) : AllStand source [] := fun _ hMem => nomatch hMem

/-- An error points into the source: the text of its token stands at its offset, and without a token
    it is about the end of the source, or about all of it, or about the expression at its offset. -/
structure SyntaxError.PointsInto (e : SyntaxError) (source : String) : Prop where
  stands : StandsAt source e.offset (e.token.getD "")
  ending : e.token = none → e.cause ≠ .emptyInput → e.cause ≠ .nullTestOnExpression →
    e.offset = source.utf8ByteSize

/-- What stays the same during a parse of the source. -/
def Scope.of (source : String) (limit : Nat) : Scope := ⟨source.utf8ByteSize, limit⟩

/-! ## Errors -/

section

variable {source : String} {limit : Nat}

theorem errorAt_pointsInto {t : Token} (h : t.StandsIn source) (cause : Cause) :
    (errorAt t cause).PointsInto source := ⟨h, fun hToken => nomatch hToken⟩

theorem end_pointsInto (source : String) (cause : Cause) :
    SyntaxError.PointsInto ⟨cause, source.utf8ByteSize, none⟩ source :=
  ⟨standsAt_end source, fun _ _ _ => rfl⟩

theorem unexpected_pointsInto {ts : List Token} (h : AllStand source ts)
    (expected : Expectation) : (unexpected (.of source limit) expected ts).PointsInto source := by
  cases ts with
  | nil => exact end_pointsInto source _
  | cons t ts => exact errorAt_pointsInto h.head _

theorem tooDeep_pointsInto {ts : List Token} (h : AllStand source ts) :
    (tooDeep (.of source limit) ts).PointsInto source := by
  cases ts with
  | nil => exact end_pointsInto source _
  | cons t ts => exact errorAt_pointsInto h.head _

end

/-! ## Steps -/

/-- A step yields what is asked of it, or fails with an error that points into the source. -/
inductive Located {α : Type} (source : String) (post : α → Prop) : Except SyntaxError α → Prop
  | ok {a : α} (h : post a) : Located source post (.ok a)
  | error {e : SyntaxError} (h : e.PointsInto source) : Located source post (.error e)

/-- The tokens after what was read stand in the source. -/
def RestStands {α : Type} (source : String) (read : α × List Token) : Prop :=
  AllStand source read.2

namespace Located

variable {α β : Type} {source : String} {limit : Nat} {post : α → Prop} {post' : β → Prop}

/-- What follows a step may rely on what the step yields. -/
theorem bind {step : Except SyntaxError α} {next : α → Except SyntaxError β}
    (h : Located source post step)
    (hNext : ∀ a, step = .ok a → post a → Located source post' (next a)) :
    Located source post' (step >>= next) := by
  cases h with
  | ok h => exact hNext _ rfl h
  | error h => exact .error h

/-- A step that only makes something else of what was read. -/
theorem map {step : Except SyntaxError α} (h : Located source post step) {f : α → β}
    (hf : ∀ a, post a → post' (f a)) : Located source post' (step >>= fun a => .ok (f a)) :=
  h.bind fun a _ h => .ok (hf a h)

theorem errorAt {t : Token} (h : t.StandsIn source) (cause : Cause) :
    Located source post (.error (errorAt t cause)) :=
  .error (errorAt_pointsInto h cause)

theorem unexpected {ts : List Token} (h : AllStand source ts) (expected : Expectation) :
    Located source post (.error (unexpected (.of source limit) expected ts)) :=
  .error (unexpected_pointsInto h expected)

theorem tooDeep {ts : List Token} (h : AllStand source ts) :
    Located source post (.error (tooDeep (.of source limit) ts)) :=
  .error (tooDeep_pointsInto h)

end Located

end GeoFilter.Cql
