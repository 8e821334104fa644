import GeoFilter.Proofs.Lexer.Recased
import GeoFilter.Proofs.Lexer.Yields

set_option autoImplicit false

/-! # The text of an operand

A text spells an expression if its tokens are that expression. A text that is a single geometry
literal holds nothing else than the literal and spaces around it, and no quotes, so that it can be
put in quotes as it is. -/

namespace GeoFilter.Cql

open Grammar

/-- The text is an expression, which nests `d` levels deep. -/
def Spells (source : String) (d : ℕ) (e : Expression) : Prop :=
  ∃ ts, tokens source = .ok ts ∧ Arithmetic .sum d (ts.map Token.kind) e

/-- The text is a single geometry literal, which stands for the geometry. -/
def SpellsGeometry (source : String) (g : Geometry) : Prop :=
  ∃ t literal, tokens source = .ok [t] ∧ t.kind = .geometry literal ∧
    geometryLiteral t literal = .ok (.literal (.geometry g))

theorem Spells.of_primary {source : String} {ks : List TokenKind} {e : Expression}
    (h : Cuts source.toList ks []) (he : Arithmetic .primary 0 ks e) : Spells source 0 e := by
  obtain ⟨ts, hTokens, rfl⟩ := tokens_of_cuts h
  exact ⟨ts, hTokens, .term (.factor (.operand he))⟩

theorem Spells.cuts {source : String} {d : ℕ} {e : Expression} (h : Spells source d e) :
    ∃ ks, Cuts source.toList ks [] ∧ Arithmetic .sum d ks e := by
  obtain ⟨ts, hTokens, hSum⟩ := h
  exact ⟨_, cuts_of_tokensFrom hTokens, hSum⟩

/-! ## Single tokens -/

theorem spaces_of_cuts {cs : List Char} (h : Cuts cs [] []) : ∀ c ∈ cs, isSpace c = true := by
  generalize hKinds : ([] : List TokenKind) = ks, hRest : ([] : List Char) = rest at h
  induction h with
  | done =>
    subst hRest
    exact List.forall_mem_nil _
  | space hSpace _ ih => exact List.forall_mem_cons.2 ⟨hSpace, ih hKinds hRest⟩
  | token => exact nomatch hKinds

/-- A text that is a single token has spaces around the token. -/
theorem token_of_cuts {cs : List Char} {kind : TokenKind} (h : Cuts cs [kind] []) :
    ∃ before first rest n, cs = before ++ first :: rest ∧ (∀ c ∈ before, isSpace c = true) ∧
      scan first rest = some (kind, n) ∧ ∀ c ∈ rest.drop n, isSpace c = true := by
  generalize hKinds : [kind] = ks, hRest : ([] : List Char) = rest at h
  induction h with
  | done => exact nomatch hKinds
  | space hSpace _ ih =>
    obtain ⟨before, first, rest, n, rfl, hBefore, hScan, hAfter⟩ := ih hKinds hRest
    exact ⟨_ :: before, first, rest, n, rfl, List.forall_mem_cons.2 ⟨hSpace, hBefore⟩, hScan,
      hAfter⟩
  | @token first cs rest _ n _ hScan hMore =>
    obtain ⟨rfl, rfl⟩ := List.cons.inj hKinds
    subst hRest
    exact ⟨[], first, cs, n, rfl, List.forall_mem_nil _, hScan, spaces_of_cuts hMore⟩

/-- Only a word is the start of a geometry literal. -/
theorem scanWord_of_scan {first : Char} {rest : List Char} {literal : String} {n : ℕ}
    (h : scan first rest = some (.geometry literal, n)) :
    scanWord first rest = some (.geometry literal, n) := by
  unfold scan at h
  split at h
  · obtain ⟨_, -, hKind⟩ := Option.map_eq_some_iff.1 h
    exact nomatch (Prod.mk.inj hKind).1
  · split at h
    · obtain ⟨_, -, hKind⟩ := Option.map_eq_some_iff.1 h
      exact nomatch (Prod.mk.inj hKind).1
    · split at h
      · obtain ⟨_, -, hKind⟩ := Option.map_eq_some_iff.1 h
        exact nomatch (Prod.mk.inj hKind).1
      · split at h
        · exact h
        · unfold scanMark at h
          split at h <;> simp at h

/-! ## Geometry literals -/

variable {source : String} {g : Geometry}

theorem SpellsGeometry.cuts (h : SpellsGeometry source g) :
    ∃ literal, Cuts source.toList [.geometry literal] [] ∧
      Geometry.ofWkt (Text.upper literal) = .ok g := by
  obtain ⟨t, literal, hTokens, hKind, hLiteral⟩ := h
  have hCuts := cuts_of_tokensFrom hTokens
  rw [List.map_singleton, hKind] at hCuts
  refine ⟨literal, hCuts, ?_⟩
  unfold geometryLiteral at hLiteral
  split at hLiteral
  · next g' hRead =>
    obtain rfl := Value.geometry.inj (Expression.literal.inj (Except.ok.inj hLiteral))
    exact hRead
  · exact nomatch hLiteral

theorem SpellsGeometry.of_cuts {literal : String} (h : Cuts source.toList [.geometry literal] [])
    (hRead : Geometry.ofWkt (Text.upper literal) = .ok g) : SpellsGeometry source g := by
  obtain ⟨ts, hTokens, hKinds⟩ := tokens_of_cuts h
  obtain ⟨t, rfl, hKind⟩ := List.map_eq_singleton_iff.1 hKinds
  exact ⟨t, literal, hTokens, hKind, by rw [geometryLiteral, hRead]⟩

/-- The text is the literal with spaces around it, and holds no quotes. -/
theorem SpellsGeometry.literal (h : SpellsGeometry source g) :
    ∃ before literal after, source.toList = before ++ (literal ++ after) ∧
      (∀ c ∈ before, isSpace c = true) ∧ (∀ c ∈ after, isSpace c = true) ∧
      (∀ c ∈ literal, isQuote c = false) ∧
      Geometry.ofWkt (Text.upper (String.ofList literal)) = .ok g := by
  obtain ⟨literal, hCuts, hRead⟩ := h.cuts
  obtain ⟨before, first, rest, n, hSource, hBefore, hScan, hAfter⟩ := token_of_cuts hCuts
  have hWord := scanWord_of_scan hScan
  rcases scanWord_cases hWord with ⟨-, ⟨_, hKind⟩ | ⟨_, hKind⟩⟩ | ⟨m, -, -, -, hKind⟩
  · exact nomatch hKind
  · exact nomatch hKind
  obtain rfl := TokenKind.geometry.inj hKind
  refine ⟨before, first :: rest.take n, rest.drop n, ?_, hBefore, hAfter, ?_, hRead⟩
  · rw [hSource, List.cons_append, List.take_append_drop]
  · have hMarks := marks_of_scanWord hWord hRead
    exact fun c hc => not_quote (by decide) (hMarks c hc)

theorem SpellsGeometry.spells (h : SpellsGeometry source g) :
    Spells source 0 (.literal (.geometry g)) := by
  obtain ⟨literal, hCuts, hRead⟩ := h.cuts
  exact .of_primary hCuts (.geometry hRead)

/-- The text with quotes around it. -/
def quotedText (source : String) : String := "'" ++ source ++ "'"

theorem SpellsGeometry.spells_quoted (h : SpellsGeometry source g) :
    Spells (quotedText source) 0 (.literal (.text source)) := by
  obtain ⟨before, literal, after, hSource, hBefore, hAfter, hLiteral, -⟩ := h.literal
  have hSpace : ∀ c, isSpace c = true → isQuote c = false := fun c hc => not_quote (by decide) hc
  have hUnquoted : ∀ c ∈ source.toList, isQuote c = false := by
    intro c hc
    rw [hSource, List.mem_append, List.mem_append] at hc
    rcases hc with hc | hc | hc
    · exact hSpace c (hBefore c hc)
    · exact hLiteral c hc
    · exact hSpace c (hAfter c hc)
  -- without quotes inside there is nothing to double
  have hText : (quotedText source).toList = textChars source := by
    have hSame : source.toList.flatMap (fun c => if c = '\'' then [c, c] else [c])
        = source.toList := by
      have hSingle : ∀ c ∈ source.toList, (if c = '\'' then [c, c] else [c]) = [c] :=
        fun c hc => if_neg fun hQuote => absurd (hUnquoted c hc) (by rw [hQuote]; decide)
      rw [List.flatMap_congr hSingle, List.flatMap_singleton']
    rw [textChars, quoteWith, hSame]
    simp [quotedText]
  refine .of_primary ?_ (.text source)
  rw [hText]
  exact (yields_text source).cuts

end GeoFilter.Cql
