import GeoFilter.Proofs.Parser.Completeness.Filter

set_option autoImplicit false

/-! # The accepted filters are those of the grammar

What `parse` returns is decided by the kinds of the tokens: a filter whose derivation nests no
deeper than the limit. A derivation never nests deeper than it has tokens, and the parser settles
which filter some tokens denote, so no tokens denote two. -/

namespace GeoFilter.Cql

open Grammar

variable {d d' : Nat} {ks : List TokenKind}

/-! ## The nesting of a derivation -/

theorem arithmetic_depth_le {binding : Binding} {e : Expression} (h : Arithmetic binding d ks e) :
    d ≤ ks.length := by
  induction h with
  | operand _ ih | factor _ ih | term _ ih => exact ih
  | group _ ih | minusNumber _ ih | minus _ _ ih =>
    simp only [List.length_cons, List.length_append]
    omega
  | factors _ _ _ ih ih' | terms _ _ _ ih ih' =>
    simp only [List.length_append, List.length_cons]
    omega
  | _ => exact Nat.zero_le _

theorem listing_depth_le {es : List Expression} (h : Listing d ks es) : d ≤ ks.length := by
  induction h with
  | one h => exact arithmetic_depth_le h
  | more h _ ih =>
    have hFirst := arithmetic_depth_le h
    simp only [List.length_append, List.length_cons]
    omega

theorem sentence_depth_le {l : Level} {m : l.Meaning} (h : Sentence l d ks m) :
    d ≤ ks.length := by
  induction h with
  | disjunction _ ih | alternative _ ih | conjunction _ ih | conjunct _ ih | predicate _ ih =>
    exact ih
  | alternatives _ _ ih ih' | conjuncts _ _ ih ih' =>
    simp only [List.length_append, List.length_cons]
    omega
  | not _ ih | group _ ih =>
    simp only [List.length_cons, List.length_append]
    omega
  | everything | nothing => exact Nat.zero_le _
  | ids h | spatial _ h | box _ h =>
    have hList := listing_depth_le h
    simp only [List.length_cons, List.length_append]
    omega
  | comparison op h h' =>
    have hLeft := arithmetic_depth_le h
    have hRight := arithmetic_depth_le h'
    simp only [List.length_append, List.length_cons]
    omega
  | membership negated h hList =>
    have hLeft := arithmetic_depth_le h
    have hRight := listing_depth_le hList
    simp only [List.length_append, List.length_cons]
    omega
  | like negated h _ | nullTest negated h =>
    have hLeft := arithmetic_depth_le h
    simp only [List.length_append]
    omega
  | between h hLow hHigh | notBetween h hLow hHigh =>
    have hFirst := arithmetic_depth_le h
    have hSecond := arithmetic_depth_le hLow
    have hThird := arithmetic_depth_le hHigh
    simp only [List.length_append, List.length_cons]
    omega

/-! ## Whole texts -/

theorem parseOr_nil (scope : Scope) (b : Nat) :
    (parseOr scope b []).outcome = .error (unexpected scope .expression []) := by
  rw [outcome_parseOr, outcome_parseAnd, outcome_parseNot]
  rfl

theorem endText_eq_ok {scope : Scope} {operand : Operand} {rest : List Token} {f : Filter} :
    endText scope operand rest = .ok f ↔ operand = .filter f ∧ rest = [] := by
  unfold endText
  rw [bind_eq_ok]
  constructor
  · rintro ⟨f', hFilter, hEnd⟩
    obtain rfl := requireFilter_eq_ok.1 hFilter
    -- Tokens that are left are an error, whichever token comes first.
    cases rest with
    | nil =>
      obtain rfl := Except.ok.inj hEnd
      exact ⟨rfl, rfl⟩
    | cons t rest =>
      dsimp only at hEnd
      split at hEnd <;> exact absurd hEnd (by simp)
  · rintro ⟨rfl, rfl⟩
    exact ⟨f, rfl, rfl⟩

theorem parse_eq_ok {source : String} {ts : List Token} (hTokens : tokens source = .ok ts)
    {m : Nat} {f : Filter} :
    parse source m = .ok f ↔
      (parseOr ⟨source.utf8ByteSize, m⟩ m ts).outcome = .ok (.filter f, []) := by
  cases ts with
  | nil => simp [parse_of_tokens_nil hTokens, parseOr_nil]
  | cons t ts =>
    rw [parse_eq_outcome hTokens, bind_eq_ok]
    constructor
    · rintro ⟨⟨operand, rest⟩, hOr, hEnd⟩
      obtain ⟨rfl, rfl⟩ := endText_eq_ok.1 hEnd
      exact hOr
    · intro hOr
      exact ⟨_, hOr, endText_eq_ok.2 ⟨rfl, rfl⟩⟩

/-- A filter is returned exactly if the tokens derive it within the limit on nesting. -/
theorem parse_eq_ok_iff {source : String} {ts : List Token} (hTokens : tokens source = .ok ts)
    {m : Nat} {f : Filter} :
    parse source m = .ok f ↔ ∃ d, d ≤ m ∧ Sentence .disjunction d (ts.map Token.kind) f := by
  rw [parse_eq_ok hTokens]
  constructor
  · exact sentence_of_parseOr
  · rintro ⟨d, hd, h⟩
    have hReads := sentenceReads ⟨source.utf8ByteSize, m⟩ h m ts [] rfl (ending_nil [])
    rw [List.append_nil] at hReads
    exact hReads.within hd

/-- Tokens with the given kinds, on which the parser can be run. -/
theorem exists_tokens (ks : List TokenKind) : ∃ ts : List Token, ts.map Token.kind = ks :=
  ⟨ks.map fun k => ⟨k, "", 0⟩, by simp [Function.comp_def]⟩

/-- Tokens denote at most one filter, at one depth. -/
theorem sentence_unique {f f' : Filter} (h : Sentence .disjunction d ks f)
    (h' : Sentence .disjunction d' ks f') : d = d' ∧ f = f' := by
  obtain ⟨ts, rfl⟩ := exists_tokens ks
  -- Both derivations are read with the smaller budget, which must then suffice for the other.
  have hDepth : ∀ {d₁ d₂ f₁ f₂}, Sentence .disjunction d₁ (ts.map Token.kind) f₁ →
      Sentence .disjunction d₂ (ts.map Token.kind) f₂ → d₁ ≤ d₂ := by
    intro d₁ d₂ f₁ f₂ h₁ h₂
    apply Nat.le_of_not_lt
    intro hLt
    obtain ⟨e, he, -⟩ :=
      (sentenceReads ⟨0, d₂⟩ h₁ d₂ ts [] rfl (ending_nil [])).beyond hLt
    rw [(sentenceReads ⟨0, d₂⟩ h₂ d₂ ts [] rfl (ending_nil [])).within
      (Nat.le_refl d₂)] at he
    exact absurd he (by simp)
  -- At equal depths one run of the parser reads both, so the filters agree.
  obtain rfl := Nat.le_antisymm (hDepth h h') (hDepth h' h)
  have hRead := (sentenceReads ⟨0, d⟩ h d ts [] rfl (ending_nil [])).within
    (Nat.le_refl d)
  rw [(sentenceReads ⟨0, d⟩ h' d ts [] rfl (ending_nil [])).within
    (Nat.le_refl d)] at hRead
  simp only [Except.ok.injEq, Prod.mk.injEq, Operand.filter.injEq, and_true] at hRead
  exact ⟨rfl, hRead.symm⟩

end GeoFilter.Cql
