import GeoFilter.Proofs.Parser.Completeness.Expression

set_option autoImplicit false

/-! # The limit on nesting is a threshold for expressions

The parser looks at its budget only where something nests, and what nests gives its level back. So
each parsing function has a number of levels, no more than it has tokens, from which on the budget
makes no difference and below which the function fails at the limit. The theorems call one another
as the functions do. -/

namespace GeoFilter.Cql

variable {α β : Type} {stop n n' : Nat}

/-! ## Single tokens -/

theorem unlimited_expect (scope : Scope) (test : Token → Bool) (expected : Expectation)
    (ts : List Token) : Unlimited (expect scope test expected ts).outcome := by
  cases ts with
  | nil => exact unlimited_unexpected scope expected []
  | cons t ts =>
    rw [expect]
    split
    · exact unlimited_ok _
    · exact unlimited_unexpected scope expected (t :: ts)

theorem unlimited_expectClosing (scope : Scope) (opened : Token) (ts : List Token) :
    Unlimited (expectClosing scope opened ts).outcome := by
  cases ts with
  | nil => exact unlimited_error fun limit h => Cause.noConfusion h
  | cons t ts => exact unlimited_expect scope _ _ (t :: ts)

theorem expect_threshold (stop n : Nat) (test : Token → Bool) (expected : Expectation)
    (ts : List Token) :
    HasThreshold stop n fun scope _ => (expect scope test expected ts).outcome := by
  refine .of_eq (unlimited_expect ⟨stop, 0⟩ test expected ts) ?_
  intro limit b
  cases ts with
  | nil => rfl
  | cons t ts => rfl

theorem expectClosing_threshold (stop n : Nat) (opened : Token) (ts : List Token) :
    HasThreshold stop n fun scope _ => (expectClosing scope opened ts).outcome := by
  refine .of_eq (unlimited_expectClosing ⟨stop, 0⟩ opened ts) ?_
  intro limit b
  cases ts with
  | nil => rfl
  | cons t ts => rfl

/-! ## Expressions -/

theorem unlimited_geometryLiteral (t : Token) (source : String) :
    Unlimited (geometryLiteral t source) := by
  unfold geometryLiteral
  split
  · exact unlimited_ok _
  · exact unlimited_error fun limit h => Cause.noConfusion h

theorem unlimited_notAValue (t : Token) (name : String) :
    Unlimited (.error (notAValue t name) : Except SyntaxError α) := by
  refine unlimited_error ?_
  unfold notAValue
  split
  · exact fun limit h => Cause.noConfusion h
  · exact fun limit h => Cause.noConfusion h

mutual

theorem parseSum_threshold (stop : Nat) (ts : List Token) :
    HasThreshold stop ts.length fun scope b => (parseSum scope b ts).outcome := by
  refine .congr (fun scope b => outcome_parseSum scope b ts) ?_
  refine (parseOperand_threshold stop ts).bind ?_
  rintro ⟨operand, rest⟩ ⟨scope, b, hOperand⟩
  have hShort := outcome_shorter hOperand
  refine ((parseFactors_threshold stop operand rest).mono (by omega)).bind ?_
  rintro ⟨product, rest'⟩ ⟨scope, b, hProduct⟩
  have hShort' : rest'.length < rest.length + 1 := outcome_shorter hProduct
  exact (parseTerms_threshold stop product rest').mono (by omega)
  termination_by ts.length * 4 + 2
  decreasing_by all_goals omega

theorem parseTerms_threshold (stop : Nat) (left : Expression) (ts : List Token) :
    HasThreshold stop ts.length fun scope b => (parseTerms scope b left ts).outcome := by
  refine .congr (fun scope b => outcome_parseTerms scope b left ts) ?_
  cases ts with
  | nil => exact .ok _
  | cons t rest =>
    rw [List.length_cons]
    dsimp only
    split
    · next op hKind =>
      split
      · exact .ok _
      · refine ((parseOperand_threshold stop rest).mono (Nat.le_succ _)).bind ?_
        rintro ⟨operand, r⟩ ⟨scope, b, hOperand⟩
        have hShort := outcome_shorter hOperand
        refine ((parseFactors_threshold stop operand r).mono (by omega)).bind ?_
        rintro ⟨right, r'⟩ ⟨scope, b, hRight⟩
        have hShort' : r'.length < r.length + 1 := outcome_shorter hRight
        exact (parseTerms_threshold stop (.arithmetic op left right) r').mono (by omega)
    · exact .ok _
  termination_by ts.length * 4
  decreasing_by all_goals simp only [List.length_cons] at *; omega

theorem parseFactors_threshold (stop : Nat) (left : Expression) (ts : List Token) :
    HasThreshold stop ts.length fun scope b => (parseFactors scope b left ts).outcome := by
  refine .congr (fun scope b => outcome_parseFactors scope b left ts) ?_
  cases ts with
  | nil => exact .ok _
  | cons t rest =>
    rw [List.length_cons]
    dsimp only
    split
    · next op hKind =>
      split
      · refine ((parseOperand_threshold stop rest).mono (Nat.le_succ _)).bind ?_
        rintro ⟨right, r⟩ ⟨scope, b, hRight⟩
        have hShort := outcome_shorter hRight
        exact (parseFactors_threshold stop (.arithmetic op left right) r).mono (by omega)
      · exact .ok _
    · exact .ok _
  termination_by ts.length * 4
  decreasing_by all_goals simp only [List.length_cons] at *; omega

theorem parseOperand_threshold (stop : Nat) (ts : List Token) :
    HasThreshold stop ts.length fun scope b => (parseOperand scope b ts).outcome := by
  refine .congr (fun scope b => outcome_parseOperand scope b ts) ?_
  cases ts with
  | nil => exact .unexpected .expression []
  | cons t rest =>
    rw [List.length_cons]
    dsimp only
    split
    · exact ((parseOperand_threshold stop rest).map fun (e, after) => (negated e, after)).nest
        (fun _ => rfl) fun _ _ => rfl
    · exact parsePrimary_threshold stop t rest
  termination_by ts.length * 4 + 1
  decreasing_by all_goals simp only [List.length_cons] at *; omega

theorem parsePrimary_threshold (stop : Nat) (t : Token) (ts : List Token) :
    HasThreshold stop (ts.length + 1) fun scope b => (parsePrimary scope b t ts).outcome := by
  refine .congr (fun scope b => outcome_parsePrimary scope b t ts) ?_
  split
  · exact .ok _
  · exact .ok _
  · exact .ok _
  · exact .ok _
  · exact .ok _
  · next source _ =>
    have hLiteral : HasThreshold stop (ts.length + 1) fun _ _ => geometryLiteral t source :=
      .of_eq (unlimited_geometryLiteral t source) fun _ _ => rfl
    exact hLiteral.map fun literal => (literal, ts)
  · exact .ok _
  · next name hKind =>
    cases ts with
    | nil => exact .ok _
    | cons opened after =>
      dsimp only
      split
      · split
        · have hArguments := parseArguments_threshold stop opened after
          refine (hArguments.mono (by simp only [List.length_cons]; omega)).bind ?_
          rintro ⟨arguments, rest⟩ -
          dsimp only
          split
          · exact .ok _
          · exact .error fun limit h => Cause.noConfusion h
        · exact .of_eq (unlimited_notAValue t name) fun _ _ => rfl
      · exact .ok _
  · have hInner : HasThreshold stop ts.length fun scope b => (parseSum scope b ts).outcome >>=
        fun (inner, rest) => (expectClosing scope t rest).outcome >>=
          fun (_, after) => .ok (inner, after) := by
      refine (parseSum_threshold stop ts).bind ?_
      rintro ⟨inner, rest⟩ -
      exact (expectClosing_threshold stop ts.length t rest).map fun (_, after) => (inner, after)
    exact hInner.nest (fun _ => rfl) fun _ _ => rfl
  · exact .unexpected .expression (t :: ts)
  termination_by (ts.length + 1) * 4
  decreasing_by all_goals simp only [List.length_cons] at *; omega

theorem parseArguments_threshold (stop : Nat) (opened : Token) (ts : List Token) :
    HasThreshold stop ts.length fun scope b => (parseArguments scope b opened ts).outcome := by
  refine .congr (fun scope b => outcome_parseArguments scope b opened ts) ?_
  cases ts with
  | nil => exact .unexpected .expression []
  | cons t rest =>
    dsimp only
    split
    · exact .ok _
    · refine (parseItems_threshold stop (t :: rest)).bind ?_
      rintro ⟨items, r⟩ -
      exact (expectClosing_threshold stop _ opened r).map fun (_, after) => (items, after)
  termination_by ts.length * 4 + 4
  decreasing_by all_goals simp only [List.length_cons] at *; omega

theorem parseItems_threshold (stop : Nat) (ts : List Token) :
    HasThreshold stop ts.length fun scope b => (parseItems scope b ts).outcome := by
  refine .congr (fun scope b => outcome_parseItems scope b ts) ?_
  cases ts with
  | nil => exact .unexpected .expression []
  | cons t rest =>
    refine (parseSum_threshold stop (t :: rest)).bind ?_
    rintro ⟨value, r⟩ ⟨scope, b, hValue⟩
    have hShort := outcome_shorter hValue
    cases r with
    | nil => exact .ok _
    | cons separator more =>
      dsimp only
      split
      · have hMore : more.length ≤ (t :: rest).length := by
          simp only [List.length_cons] at hShort ⊢
          omega
        exact ((parseItems_threshold stop more).mono hMore).map fun (others, after) =>
          ((t, value) :: others, after)
      · exact .ok _
  termination_by ts.length * 4 + 3
  decreasing_by all_goals simp only [List.length_cons] at *; omega

end

end GeoFilter.Cql
