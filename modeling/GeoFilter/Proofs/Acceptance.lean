import GeoFilter.Proofs.Lexer.Pieces

set_option autoImplicit false

/-! # The parser accepts exactly the grammar

With a limit on nesting that no text of the same length could reach, a text is accepted exactly if
its tokens are a filter of the grammar, and the filter returned is the one that they denote. -/

namespace GeoFilter.Cql

open Grammar

/-- A text whose tokens are no more than the limit on nesting is read as the filter that the tokens
    denote, and fails if they denote none; and no tokens denote two filters. -/
theorem parse_accepts_grammar :
    (∀ (source : String) (ts : List Token) (m : Nat), tokens source = .ok ts → ts.length ≤ m →
      ∀ f, parse source m = .ok f ↔ Denotes (ts.map Token.kind) f) ∧
    ∀ (ks : List TokenKind) (f f' : Filter), Denotes ks f → Denotes ks f' → f = f' := by
  constructor
  · intro source ts m hTokens hLimit f
    rw [parse_eq_ok_iff hTokens]
    constructor
    · rintro ⟨d, -, h⟩
      exact ⟨d, h⟩
    · rintro ⟨d, h⟩
      have hDepth := sentence_depth_le h
      rw [List.length_map] at hDepth
      exact ⟨d, Nat.le_trans hDepth hLimit, h⟩
  · intro ks f f' h h'
    obtain ⟨d, h⟩ := h
    obtain ⟨d', h'⟩ := h'
    exact (sentence_unique h h').2

/-- Differences group to the left, and a product binds tighter. -/
theorem parse_accepts_difference :
    parse "a - b - c * d = e" 9 = .ok (.comparison .eq
      (.arithmetic .sub (.arithmetic .sub (.attr "a") (.attr "b"))
        (.arithmetic .mul (.attr "c") (.attr "d"))) (.attr "e")) := by
  have hCuts : Cuts "a - b - c * d = e".toList
      [.name "a", .arithmetic .sub, .name "b", .arithmetic .sub, .name "c", .arithmetic .mul,
        .name "d", .compare .eq, .name "e"] [] :=
    .token rfl (.space rfl (.token rfl (.space rfl (.token rfl (.space rfl (.token rfl (.space rfl
      (.token rfl (.space rfl (.token rfl (.space rfl (.token rfl (.space rfl (.token rfl
      (.space rfl (.token rfl .done))))))))))))))))
  obtain ⟨ts, hTokens, hKinds⟩ := tokens_of_cuts hCuts
  have hLength : ts.length ≤ 9 := by
    rw [← List.length_map (f := Token.kind), hKinds]
    exact Nat.le_refl 9
  have hName : ∀ name, Arithmetic .unary 0 [.name name] (.attr name) :=
    fun name => .operand (.name name)
  have hProduct := Arithmetic.factors (.factor (hName "c")) (.inl rfl) (hName "d")
  have hDifference :=
    Arithmetic.terms (.term (.factor (hName "a"))) (.inr rfl) (.factor (hName "b"))
  have hLeft := Arithmetic.terms hDifference (.inr rfl) hProduct
  have hComparison := Sentence.comparison .eq hLeft (.term (.factor (hName "e")))
  refine (parse_accepts_grammar.1 _ ts 9 hTokens hLength _).2 ?_
  rw [hKinds]
  exact ⟨_, .disjunction (.alternative (.conjunction (.conjunct (.predicate hComparison))))⟩

end GeoFilter.Cql
