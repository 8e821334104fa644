import GeoFilter.Proofs.Composition
import GeoFilter.Proofs.Parser.Threshold.Filter

set_option autoImplicit false

/-! # The limit on nesting decides nothing else

Every text, readable or not, has one answer that has nothing to do with the limit. A limit that is
large enough gives this answer, and a smaller one refuses the text for its nesting. -/

namespace GeoFilter.Cql

open Grammar

/-! ## The tokens of a text -/

/-- A text has no more tokens than characters. -/
theorem Cuts.length_le {cs rest : List Char} {ks : List TokenKind} (h : Cuts cs ks rest) :
    ks.length ≤ cs.length := by
  induction h with
  | done => exact Nat.zero_le _
  | space _ _ ih => exact Nat.le_succ_of_le ih
  | token _ _ ih =>
    rw [List.length_drop] at ih
    simp only [List.length_cons]
    omega

theorem length_tokens {source : String} {ts : List Token} (h : tokens source = .ok ts) :
    ts.length ≤ source.length := by
  have hCuts := (cuts_of_tokensFrom h).length_le
  rwa [List.length_map, String.length_toList] at hCuts

theorem unlimited_scanError {α : Type} (offset : Nat) (first : Char) (rest : List Char) :
    Unlimited (.error (scanError offset first rest) : Except SyntaxError α) := by
  refine unlimited_error ?_
  intro limit
  simp only [scanError]
  split
  · exact fun h => Cause.noConfusion h
  · split
    · exact fun h => Cause.noConfusion h
    · split
      · exact fun h => Cause.noConfusion h
      · exact fun h => Cause.noConfusion h

/-- Nothing nests where a text is cut into tokens. -/
theorem unlimited_tokensFrom (offset : Nat) (cs : List Char) :
    Unlimited (tokensFrom offset cs) := by
  cases cs with
  | nil =>
    rw [tokensFrom_eq]
    exact unlimited_ok []
  | cons first rest =>
    by_cases hSpace : isSpace first
    · rw [tokensFrom_space hSpace]
      exact unlimited_tokensFrom _ rest
    · cases hScan : scan first rest with
      | none =>
        rw [tokensFrom_eq]
        simp only [List.dropWhile_cons_of_neg hSpace, hScan]
        exact unlimited_scanError _ first rest
      | some token =>
        obtain ⟨kind, n⟩ := token
        rw [tokensFrom_token hScan]
        exact (unlimited_tokensFrom _ (rest.drop n)).bind fun others => unlimited_ok _
  termination_by cs.length
  decreasing_by all_goals simp only [List.length_cons, List.length_drop]; omega

/-! ## Whole texts -/

theorem unlimited_endText (scope : Scope) (operand : Operand) (rest : List Token) :
    Unlimited (endText scope operand rest) := by
  refine (unlimited_requireFilter scope operand rest).bind ?_
  intro f
  cases rest with
  | nil => exact unlimited_ok f
  | cons t rest =>
    dsimp only
    split
    · exact unlimited_error fun limit h => Cause.noConfusion h
    · exact unlimited_unexpected scope .ending (t :: rest)

theorem endText_threshold (stop n : Nat) (operand : Operand) (rest : List Token) :
    HasThreshold stop n fun scope _ => endText scope operand rest := by
  refine .of_eq (unlimited_endText ⟨stop, 0⟩ operand rest) ?_
  intro limit b
  cases operand with
  | filter f => cases rest <;> rfl
  | expression e => rfl

/-- The answer to a text, and the least limit that gives it. -/
theorem exists_threshold (source : String) :
    ∃ d r, d ≤ source.length ∧ Unlimited r ∧ (∀ m, d ≤ m → parse source m = r) ∧
      ∀ m, m < d → ∃ e, parse source m = .error e ∧ e.cause = .depthExceeded m := by
  cases hTokens : tokens source with
  | error e =>
    have hUnlimited := unlimited_tokensFrom 0 source.toList e hTokens
    exact ⟨0, .error e, Nat.zero_le _, unlimited_error hUnlimited,
      fun m _ => parse_of_tokens_error hTokens m, fun m hm => absurd hm m.not_lt_zero⟩
  | ok ts =>
    cases ts with
    | nil =>
      have hUnlimited : ∀ limit, Cause.emptyInput ≠ .depthExceeded limit :=
        fun limit h => Cause.noConfusion h
      exact ⟨0, _, Nat.zero_le _, unlimited_error hUnlimited,
        fun m _ => parse_of_tokens_nil hTokens m, fun m hm => absurd hm m.not_lt_zero⟩
    | cons t ts =>
      obtain ⟨d, r, hd, hr, hParse⟩ :=
        (parseOr_threshold source.utf8ByteSize (t :: ts)).bind fun read _ =>
          endText_threshold source.utf8ByteSize _ read.1 read.2
      refine ⟨d, r, Nat.le_trans hd (length_tokens hTokens), hr, fun m hm => ?_, fun m hm => ?_⟩
      · rw [parse_eq_outcome hTokens]
        exact (hParse m m).within hm
      · rw [parse_eq_outcome hTokens]
        exact (hParse m m).beyond hm

/-- Each text has a threshold of at most as many levels as it has characters. Limits from there on
    all give one answer, a tree or an error, and smaller ones refuse the text at the limit. So a
    larger limit never takes back or changes a tree. -/
theorem parse_threshold (source : String) :
    (∃ d r, d ≤ source.length ∧ Unlimited r ∧ (∀ m, d ≤ m → parse source m = r) ∧
      ∀ m, m < d → ∃ e, parse source m = .error e ∧ e.cause = .depthExceeded m) ∧
    ∀ m m' f, m ≤ m' → parse source m = .ok f → parse source m' = .ok f := by
  have hThreshold := exists_threshold source
  refine ⟨hThreshold, ?_⟩
  intro m m' f hm hf
  obtain ⟨d, r, -, -, hAnswer, hRefused⟩ := hThreshold
  by_cases hd : d ≤ m
  · rw [hAnswer m' (Nat.le_trans hd hm), ← hAnswer m hd, hf]
  · obtain ⟨e, he, -⟩ := hRefused m (Nat.lt_of_not_le hd)
    rw [he] at hf
    exact absurd hf (by simp)

/-- Two levels are enough here, so the default gives the same tree. -/
theorem parse_threshold_not_group :
    parse "NOT (INCLUDE)" defaultMaxDepth = .ok (.logic .not [.everything]) := by
  have hCuts : Cuts "NOT (INCLUDE)".toList
      [.keyword .NOT, .opening, .keyword .INCLUDE, .closing] [] :=
    .token rfl (.space rfl (.token rfl (.token rfl (.token rfl .done))))
  have hGroup : Sentence .predicate 1 [.opening, .keyword .INCLUDE, .closing] .everything :=
    .group (Sentence.predicate .everything).whole
  have hRead : parse "NOT (INCLUDE)" 2 = .ok (.logic .not [.everything]) :=
    parse_of_sentence hCuts (Sentence.not (.predicate hGroup)).whole (Nat.le_refl 2)
  exact (parse_threshold "NOT (INCLUDE)").2 2 defaultMaxDepth _ (by decide) hRead

end GeoFilter.Cql
