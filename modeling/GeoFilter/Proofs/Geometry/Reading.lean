import GeoFilter.Proofs.Geometry.Tokens

set_option autoImplicit false

/-! # Reading written parts

A step reads a part if it gives back the value that was written and goes on after the text. A list
of parts is read if each part is; if some part is not, the list is refused or differs from what was
written at the first such part. -/

namespace GeoFilter.Wkt

variable {α β : Type} {item : List Token → Step α} {text : α → List Char}
variable {bad : α → α → Prop} {cs : List Char} {a : α}

/-- A step reads a text as a value and goes on after it, wherever the text stands. -/
structure Reads (item : List Token → Step α) (cs : List Char) (a : α) : Prop where
  step : ∀ more, EndsRun more → item (tokens (cs ++ more)) = some (a, tokens more)
  shorter : ∀ more, EndsRun more → (tokens more).length < (tokens (cs ++ more)).length

/-- A step refuses the text of a value or reads it as another value. -/
def Misreads (bad : α → α → Prop) (item : List Token → Step α) (cs : List Char) (a : α) : Prop :=
  ∀ more, EndsRun more → ∀ a' rest, item (tokens (cs ++ more)) = some (a', rest) → bad a' a

/-- Two lists agree up to an item that was misread. -/
inductive Differ (bad : α → α → Prop) : List α → List α → Prop where
  | here {a' a : α} {as' as : List α} (h : bad a' a) : Differ bad (a' :: as') (a :: as)
  | there {a : α} {as' as : List α} (h : Differ bad as' as) : Differ bad (a :: as') (a :: as)

theorem Differ.sameLists {same : α → α → Bool} {as' as : List α}
    (h : Differ (fun a' a => same a' a = false) as' as) : sameLists same as' as = false := by
  induction h with
  | here h => rw [GeoFilter.sameLists, h, Bool.false_and]
  | there h ih => rw [GeoFilter.sameLists, ih, Bool.and_false]

theorem not_differ_false {as' as : List α} : ¬ Differ (fun _ _ => False) as' as := by
  intro h
  induction h with
  | here h => exact h
  | there h ih => exact ih

theorem Reads.map (h : Reads item cs a) (f : α → β) :
    Reads (fun ts => (item ts).map fun (a, rest) => (f a, rest)) cs (f a) := by
  refine ⟨?_, h.shorter⟩
  intro more hMore
  rw [h.step more hMore]
  rfl

theorem Misreads.map (h : Misreads bad item cs a) {bad' : β → β → Prop} {f : α → β} {b : β}
    (hBad : ∀ a', bad a' a → bad' (f a') b) :
    Misreads bad' (fun ts => (item ts).map fun (a, rest) => (f a, rest)) cs b := by
  intro more hMore b' rest hRead
  obtain ⟨⟨a', rest'⟩, hItem, hPair⟩ := Option.map_eq_some_iff.1 hRead
  obtain ⟨rfl, rfl⟩ := Prod.mk.inj hPair
  exact hBad a' (h more hMore a' rest' hItem)

/-! ## Lists -/

/-- A list that is read has a first item, which is read at the start. -/
theorem exists_of_readList {limit : ℕ} {ts rest : List Token} {as : List α}
    (h : readList item limit ts = some (as, rest)) :
    ∃ a others rest', as = a :: others ∧ item ts = some (a, rest') := by
  cases limit with
  | zero => exact absurd h (by simp [readList])
  | succ limit =>
    rw [readList] at h
    split at h
    · exact absurd h (by simp)
    · next first after hFirst =>
      obtain ⟨⟨others, rest'⟩, -, hPair⟩ := Option.map_eq_some_iff.1 h
      obtain ⟨rfl, rfl⟩ := Prod.mk.inj hPair
      exact ⟨first, others, _, rfl, hFirst⟩
    · next first after _ hFirst =>
      obtain ⟨rfl, rfl⟩ := Prod.mk.inj (Option.some.inj h)
      exact ⟨first, [], _, rfl, hFirst⟩

theorem commas_append (a b : α) (as : List α) (more : List Char) :
    commas ((a :: b :: as).map text) ++ more
      = text a ++ ',' :: (commas ((b :: as).map text) ++ more) := by
  rw [List.map_cons, List.map_cons, commas, List.append_assoc, List.cons_append]
  exact fun hNil => nomatch hNil

/-- The text of a list starts with its first part, which ends there. -/
theorem exists_commas (text : α → List Char) (a : α) (as : List α) {more : List Char}
    (hMore : EndsRun more) :
    ∃ after, EndsRun after ∧ commas ((a :: as).map text) ++ more = text a ++ after := by
  cases as with
  | nil => exact ⟨more, hMore, rfl⟩
  | cons b as => exact ⟨_, endsRun_cons rfl _, commas_append a b as more⟩

theorem readList_reads {as : List α} (hNe : as ≠ []) (h : ∀ a ∈ as, Reads item (text a) a)
    (more : List Char) {limit : ℕ} (hLimit : as.length ≤ limit) :
    readList item limit (tokens (commas (as.map text) ++ ')' :: more))
      = some (as, .closing :: tokens more) := by
  induction as generalizing limit with
  | nil => exact absurd rfl hNe
  | cons a as ih =>
    obtain ⟨limit, rfl⟩ := Nat.exists_eq_add_of_le' (Nat.le_trans (Nat.le_add_left 1 _) hLimit)
    have ha := h a List.mem_cons_self
    cases as with
    | nil =>
      have hStep := ha.step (')' :: more) (endsRun_cons rfl _)
      rw [tokens_closing] at hStep
      rw [readList]
      simp only [List.map_cons, List.map_nil, commas, hStep]
    | cons b as =>
      have hRest := ih (List.cons_ne_nil b as) (fun a' hMem => h a' (List.mem_cons_of_mem a hMem))
        (Nat.le_of_succ_le_succ hLimit)
      have hStep := ha.step (',' :: (commas ((b :: as).map text) ++ ')' :: more))
        (endsRun_cons rfl _)
      rw [tokens_comma] at hStep
      rw [commas_append, readList]
      simp only [hStep, hRest, Option.map_some]

/-- Written items have at least a token each. -/
theorem length_le_tokens {as : List α} (h : ∀ a ∈ as, Reads item (text a) a) (more : List Char) :
    as.length + (tokens more).length
      ≤ (tokens (commas (as.map text) ++ ')' :: more)).length := by
  induction as with
  | nil =>
    rw [List.map_nil, commas, List.nil_append, tokens_closing, List.length_cons, List.length_nil]
    omega
  | cons a as ih =>
    have ha := (h a List.mem_cons_self).shorter
    have hRest := ih fun a' hMem => h a' (List.mem_cons_of_mem a hMem)
    cases as with
    | nil =>
      have hShorter := ha (')' :: more) (endsRun_cons rfl _)
      rw [tokens_closing, List.length_cons] at hShorter
      rw [List.map_singleton, commas, List.length_singleton]
      omega
    | cons b as =>
      have hShorter := ha (',' :: (commas ((b :: as).map text) ++ ')' :: more))
        (endsRun_cons rfl _)
      rw [tokens_comma, List.length_cons] at hShorter
      rw [commas_append, List.length_cons]
      omega

theorem readList_misreads {as : List α}
    (h : ∀ a ∈ as, Reads item (text a) a ∨ Misreads bad item (text a) a)
    (hSome : ∃ a ∈ as, Misreads bad item (text a) a) (more : List Char) {limit : ℕ}
    {as' : List α} {rest : List Token}
    (hRead : readList item limit (tokens (commas (as.map text) ++ ')' :: more))
      = some (as', rest)) : Differ bad as' as := by
  induction as generalizing limit as' rest with
  | nil =>
    obtain ⟨a, hMem, -⟩ := hSome
    exact nomatch hMem
  | cons a as ih =>
    have hMore : EndsRun (')' :: more) := endsRun_cons rfl more
    obtain ⟨after, hAfter, hText⟩ := exists_commas text a as hMore
    by_cases hFirst : Misreads bad item (text a) a
    · obtain ⟨a', others, rest', rfl, hItem⟩ := exists_of_readList hRead
      rw [hText] at hItem
      exact .here (hFirst after hAfter a' rest' hItem)
    · have ha := (h a List.mem_cons_self).resolve_right hFirst
      obtain ⟨b, hMem, hb⟩ := hSome
      rcases List.mem_cons.1 hMem with rfl | hMem
      · exact absurd hb hFirst
      · cases as with
        | nil => exact nomatch hMem
        | cons c as =>
          have hStep := ha.step (',' :: (commas ((c :: as).map text) ++ ')' :: more))
            (endsRun_cons rfl _)
          rw [tokens_comma] at hStep
          cases limit with
          | zero => exact absurd hRead (by simp [readList])
          | succ limit =>
            rw [commas_append, readList] at hRead
            simp only [hStep] at hRead
            obtain ⟨⟨others, rest'⟩, hOthers, hPair⟩ := Option.map_eq_some_iff.1 hRead
            obtain ⟨rfl, rfl⟩ := Prod.mk.inj hPair
            exact .there (ih (fun a' hMem => h a' (List.mem_cons_of_mem a hMem))
              ⟨b, hMem, hb⟩ hOthers)

/-! ## Bodies -/

/-- A body of parts, or `EMPTY` when there are none. -/
def bodyText (parts : List (List Char)) : List Char :=
  if parts.isEmpty then " EMPTY".toList else group parts

theorem tagged_eq (word : String) (parts : List (List Char)) :
    tagged word parts = word.toList ++ bodyText parts := by
  unfold tagged bodyText
  split <;> rfl

theorem bodyText_of_ne {parts : List (List Char)} (h : parts ≠ []) :
    bodyText parts = group parts := by
  rw [bodyText, if_neg (by simpa using h)]

theorem endsRun_bodyText (parts : List (List Char)) (more : List Char) :
    EndsRun (bodyText parts ++ more) := by
  unfold bodyText
  split
  · exact endsRun_cons rfl _
  · exact endsRun_cons rfl _

theorem tokens_group (parts : List (List Char)) (more : List Char) :
    tokens (group parts ++ more) = .opening :: tokens (commas parts ++ ')' :: more) := by
  rw [group, List.cons_append, tokens_opening, List.append_assoc, List.singleton_append]

theorem readBody_opening {empty a : α} {body : List Token → Step α} {ts rest : List Token} :
    readBody empty body (.opening :: ts) = some (a, rest)
      ↔ body ts = some (a, .closing :: rest) := by
  rw [readBody]
  split
  · next a' rest' hBody => simp [hBody]
  · next hOther => exact ⟨(fun h => nomatch h), fun h => absurd h (hOther a rest)⟩

/-- One part in parentheses. -/
theorem Reads.enclosed {body : List Token → Step α} (h : Reads body cs a) (empty : α) :
    Reads (readBody empty body) (group [cs]) a := by
  constructor
  · intro more _
    rw [tokens_group, readBody_opening]
    exact h.step (')' :: more) (endsRun_cons rfl more)
  · intro more _
    have hShorter := h.shorter (')' :: more) (endsRun_cons rfl more)
    rw [tokens_closing, List.length_cons] at hShorter
    rw [tokens_group, List.length_cons, commas]
    omega

theorem reads_group {as : List α} (hNe : as ≠ []) (h : ∀ a ∈ as, Reads item (text a) a) :
    Reads (readBody [] (readItems item)) (group (as.map text)) as := by
  constructor
  · intro more _
    rw [tokens_group, readBody_opening, readItems]
    exact readList_reads hNe h more (Nat.le_trans (Nat.le_add_right _ _) (length_le_tokens h more))
  · intro more _
    have hLength := length_le_tokens h more
    rw [tokens_group, List.length_cons]
    omega

/-- A list of parts is read whole, and no parts are read as none. -/
theorem reads_bodyText {as : List α} (h : ∀ a ∈ as, Reads item (text a) a) :
    Reads (readBody [] (readItems item)) (bodyText (as.map text)) as := by
  by_cases hNe : as = []
  · subst hNe
    have hEmpty : ∀ more, EndsRun more → tokens (bodyText ([].map text) ++ more)
        = .word "EMPTY" :: tokens more := fun more hMore => tokens_empty hMore
    constructor
    · intro more hMore
      rw [hEmpty more hMore]
      rfl
    · intro more hMore
      rw [hEmpty more hMore, List.length_cons]
      omega
  · rw [bodyText_of_ne (mt List.map_eq_nil_iff.1 hNe)]
    exact reads_group hNe h

theorem misreads_group {as : List α}
    (h : ∀ a ∈ as, Reads item (text a) a ∨ Misreads bad item (text a) a)
    (hSome : ∃ a ∈ as, Misreads bad item (text a) a) :
    Misreads (Differ bad) (readBody [] (readItems item)) (group (as.map text)) as := by
  intro more _ as' rest hRead
  rw [tokens_group, readBody_opening] at hRead
  exact readList_misreads h hSome more hRead

end GeoFilter.Wkt
