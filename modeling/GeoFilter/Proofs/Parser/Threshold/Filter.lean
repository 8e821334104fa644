import GeoFilter.Proofs.Parser.Threshold.Expression

set_option autoImplicit false

/-! # The limit on nesting is a threshold for filters

Predicates and connectives keep the thresholds of what they hold. A parenthesis at the start of a
predicate takes its level only for what it holds: an expression goes on after it with the level
given back. -/

namespace GeoFilter.Cql

/-! ## Predicates -/

/-- A filter that is read for an operand. -/
theorem HasThreshold.asOperand {stop n : Nat}
    {step : Scope → Nat → Except SyntaxError (Filter × List Token)} (h : HasThreshold stop n step) :
    HasThreshold stop n fun scope b =>
      step scope b >>= fun (f, after) => .ok (Operand.filter f, after) :=
  h.map fun (f, after) => (Operand.filter f, after)

theorem parseMembership_threshold (stop : Nat) (e : Expression) (negated : Bool)
    (ts : List Token) :
    HasThreshold stop ts.length fun scope b => (parseMembership scope b e negated ts).outcome := by
  refine .congr (fun scope b => outcome_parseMembership scope b e negated ts) ?_
  refine (expect_threshold stop _ Token.isOpening .opening ts).bind ?_
  rintro ⟨opened, rest⟩ ⟨scope, b, hOpened⟩
  have hShort := outcome_shorter hOpened
  refine ((parseItems_threshold stop rest).mono (by omega)).bind ?_
  rintro ⟨items, rest'⟩ -
  exact (expectClosing_threshold stop _ opened rest').map fun closed =>
    (Filter.oneOf e (items.map Prod.snd) negated, closed.2)

theorem unlimited_parsePattern (scope : Scope) (e : Expression) (negated : Bool)
    (ts : List Token) : Unlimited (parsePattern scope e negated ts).outcome := by
  cases ts with
  | nil => exact unlimited_unexpected scope .likePattern []
  | cons t rest =>
    simp only [parsePattern]
    split
    · split
      · exact unlimited_ok _
      · exact unlimited_error fun limit h => Cause.noConfusion h
    · exact unlimited_unexpected scope .likePattern (t :: rest)

theorem parsePattern_threshold (stop n : Nat) (e : Expression) (negated : Bool)
    (ts : List Token) :
    HasThreshold stop n fun scope _ => (parsePattern scope e negated ts).outcome := by
  refine .of_eq (unlimited_parsePattern ⟨stop, 0⟩ e negated ts) ?_
  intro limit b
  cases ts with
  | nil => rfl
  | cons t rest => rfl

theorem parseRange_threshold (stop : Nat) (e : Expression) (negated : Bool) (ts : List Token) :
    HasThreshold stop ts.length fun scope b => (parseRange scope b e negated ts).outcome := by
  refine .congr (fun scope b => outcome_parseRange scope b e negated ts) ?_
  refine (parseSum_threshold stop ts).bind ?_
  rintro ⟨low, rest⟩ ⟨scope, b, hLow⟩
  have hShort := outcome_shorter hLow
  refine (expect_threshold stop _ (·.isKeyword .AND) .andWord rest).bind ?_
  rintro ⟨word, rest'⟩ ⟨scope, b, hWord⟩
  have hShort' := outcome_shorter hWord
  have hLe : rest'.length ≤ ts.length := by omega
  exact ((parseSum_threshold stop rest').mono hLe).map fun high =>
    (if negated then Filter.notBetween e low high.1 else Filter.between e low high.1, high.2)

theorem unlimited_parseNullTest (scope : Scope) (e : Expression) (start : Nat)
    (ts : List Token) : Unlimited (parseNullTest scope e start ts).outcome := by
  rw [outcome_parseNullTest]
  refine (unlimited_expect scope (·.isKeyword .NULL) .nullWord _).bind ?_
  rintro ⟨word, rest⟩
  cases e with
  | attr name => exact unlimited_ok _
  | literal | defaultGeometry | arithmetic =>
    exact unlimited_error fun limit h => Cause.noConfusion h

theorem parseNullTest_threshold (stop n : Nat) (e : Expression) (start : Nat) (ts : List Token) :
    HasThreshold stop n fun scope _ => (parseNullTest scope e start ts).outcome := by
  refine .of_eq (unlimited_parseNullTest ⟨stop, 0⟩ e start ts) ?_
  intro limit b
  rw [outcome_parseNullTest, outcome_parseNullTest]
  generalize (if ts.head?.any (·.isKeyword .NOT) then ts.tail else ts) = after
  cases after with
  | nil => rfl
  | cons t rest => rfl

theorem parseCondition_threshold (stop : Nat) (e : Expression) (start : Nat) (ts : List Token) :
    HasThreshold stop ts.length fun scope b => (parseCondition scope b e start ts).outcome := by
  refine .congr (fun scope b => outcome_parseCondition scope b e start ts) ?_
  cases ts with
  | nil => exact .ok _
  | cons t rest =>
    have hRest : rest.length ≤ (t :: rest).length := Nat.le_succ _
    dsimp only
    split
    · next op _ =>
      exact ((parseSum_threshold stop rest).mono hRest).map fun right =>
        (Operand.filter (.comparison op e right.1), right.2)
    · exact ((parseMembership_threshold stop e false rest).mono hRest).asOperand
    · exact (parsePattern_threshold stop _ e false rest).asOperand
    · exact ((parseRange_threshold stop e false rest).mono hRest).asOperand
    · exact (parseNullTest_threshold stop _ e start rest).asOperand
    · cases rest with
      | nil => exact .unexpected .negatable []
      | cons t' rest' =>
        have hRest' : rest'.length ≤ (t :: t' :: rest').length :=
          Nat.le_trans (Nat.le_succ _) hRest
        dsimp only
        split
        · exact ((parseMembership_threshold stop e true rest').mono hRest').asOperand
        · exact (parsePattern_threshold stop _ e true rest').asOperand
        · exact ((parseRange_threshold stop e true rest').mono hRest').asOperand
        · exact .unexpected .negatable (t' :: rest')
    · exact .ok _

theorem parseComparison_threshold (stop : Nat) (t : Token) (ts : List Token) :
    HasThreshold stop (t :: ts).length fun scope b =>
      (parseComparison scope b (t :: ts)).outcome := by
  refine .congr (fun scope b => outcome_parseComparison scope b t ts) ?_
  refine (parseSum_threshold stop (t :: ts)).bind ?_
  rintro ⟨left, rest⟩ ⟨scope, b, hLeft⟩
  have hShort := outcome_shorter hLeft
  exact (parseCondition_threshold stop left t.offset rest).mono (by omega)

theorem parseIdList_threshold (stop : Nat) (ts : List Token) :
    HasThreshold stop ts.length fun scope b => (parseIdList scope b ts).outcome := by
  refine .congr (fun scope b => outcome_parseIdList scope b ts) ?_
  cases ts with
  | nil => exact .unexpected .expression []
  | cons t rest =>
    refine (parseOperand_threshold stop (t :: rest)).bind ?_
    rintro ⟨item, after⟩ ⟨scope, b, hItem⟩
    have hShort := outcome_shorter hItem
    cases item with
    | literal value =>
      cases after with
      | nil => exact .ok _
      | cons separator more =>
        dsimp only
        split
        · have hMore : more.length ≤ (t :: rest).length := by
            simp only [List.length_cons] at hShort ⊢
            omega
          exact ((parseIdList_threshold stop more).mono hMore).map fun others =>
            (value :: others.1, others.2)
        · exact .ok _
    | attr | defaultGeometry | arithmetic =>
      exact .unexpected .featureId (t :: rest)
  termination_by ts.length
  decreasing_by simp only [List.length_cons] at *; omega

theorem parseIds_threshold (stop : Nat) (ts : List Token) :
    HasThreshold stop ts.length fun scope b => (parseIds scope b ts).outcome := by
  refine .congr (fun scope b => outcome_parseIds scope b ts) ?_
  refine (expect_threshold stop _ Token.isOpening .opening ts).bind ?_
  rintro ⟨opened, rest⟩ ⟨scope, b, hOpened⟩
  have hShort := outcome_shorter hOpened
  refine ((parseIdList_threshold stop rest).mono (by omega)).bind ?_
  rintro ⟨values, rest'⟩ -
  exact (expectClosing_threshold stop _ opened rest').map fun closed =>
    (Filter.ids values, closed.2)

theorem unlimited_coordinate (argument : Token × Expression) : Unlimited (coordinate argument) := by
  unfold coordinate
  split
  · exact unlimited_ok _
  · exact unlimited_error fun limit h => Cause.noConfusion h

theorem unlimited_spatialFilter (op : SpatialOp) (name : Token)
    (arguments : List (Token × Expression)) : Unlimited (spatialFilter op name arguments) := by
  unfold spatialFilter
  split
  · exact unlimited_ok _
  · refine (unlimited_coordinate _).bind fun x₁ => (unlimited_coordinate _).bind fun y₁ => ?_
    exact (unlimited_coordinate _).bind fun x₂ => (unlimited_coordinate _).bind fun y₂ =>
      unlimited_ok _
  · exact unlimited_error fun limit h => Cause.noConfusion h

theorem parseSpatial_threshold (stop : Nat) (op : SpatialOp) (name : Token) (ts : List Token) :
    HasThreshold stop ts.length fun scope b => (parseSpatial scope b op name ts).outcome := by
  refine .congr (fun scope b => outcome_parseSpatial scope b op name ts) ?_
  refine (expect_threshold stop _ Token.isOpening .opening ts).bind ?_
  rintro ⟨opened, rest⟩ ⟨scope, b, hOpened⟩
  have hShort := outcome_shorter hOpened
  refine ((parseArguments_threshold stop opened rest).mono (by omega)).bind ?_
  rintro ⟨arguments, rest'⟩ -
  have hFilter : HasThreshold stop ts.length fun _ _ => spatialFilter op name arguments :=
    .of_eq (unlimited_spatialFilter op name arguments) fun _ _ => rfl
  exact hFilter.map fun f => (f, rest')

/-! ## Filters -/

theorem unlimited_requireFilter (scope : Scope) (x : Operand) (rest : List Token) :
    Unlimited (requireFilter scope x rest) := by
  cases x with
  | filter f => exact unlimited_ok f
  | expression e => exact unlimited_unexpected scope .comparisonOperator rest

theorem requireFilter_threshold (stop n : Nat) (x : Operand) (rest : List Token) :
    HasThreshold stop n fun scope _ => requireFilter scope x rest := by
  refine .of_eq (unlimited_requireFilter ⟨stop, 0⟩ x rest) ?_
  intro limit b
  cases x with
  | filter f => rfl
  | expression e => rfl

theorem afterOperand_threshold (stop start : Nat) (e : Expression) (ts : List Token) :
    HasThreshold stop ts.length fun scope b => afterOperand scope b start e ts := by
  refine (parseFactors_threshold stop e ts).bind ?_
  rintro ⟨product, rest⟩ ⟨scope, b, hProduct⟩
  have hShort : rest.length < ts.length + 1 := outcome_shorter hProduct
  refine ((parseTerms_threshold stop product rest).mono (by omega)).bind ?_
  rintro ⟨sum, rest'⟩ ⟨scope, b, hSum⟩
  have hShort' : rest'.length < rest.length + 1 := outcome_shorter hSum
  exact (parseCondition_threshold stop sum start rest').mono (by omega)

theorem afterGroup_threshold (stop start : Nat) (ts : List Token) (group : Operand) :
    HasThreshold stop ts.length fun scope b => afterGroup scope b start ts group := by
  cases group with
  | filter f =>
    simp only [afterGroup]
    split
    · exact .unexpected .connective ts
    · exact .ok _
  | expression e => exact afterOperand_threshold stop start e ts

mutual

theorem parseOr_threshold (stop : Nat) (ts : List Token) :
    HasThreshold stop ts.length fun scope b => (parseOr scope b ts).outcome := by
  refine .congr (fun scope b => outcome_parseOr scope b ts) ?_
  refine (parseAnd_threshold stop ts).bind ?_
  rintro ⟨operand, rest⟩ ⟨scope, b, hOperand⟩
  have hShort := outcome_shorter hOperand
  dsimp only
  split
  · refine (requireFilter_threshold stop _ operand rest).bind ?_
    intro f _
    have hLe : rest.length ≤ ts.length := by omega
    exact ((parseOrs_threshold stop rest).mono hLe).map fun (others, after) =>
      (Operand.filter (.anyOf (f :: others)), after)
  · exact .ok _
  termination_by ts.length * 4 + 3
  decreasing_by all_goals omega

theorem parseOrs_threshold (stop : Nat) (ts : List Token) :
    HasThreshold stop ts.length fun scope b => (parseOrs scope b ts).outcome := by
  refine .congr (fun scope b => outcome_parseOrs scope b ts) ?_
  cases ts with
  | nil => exact .ok _
  | cons t rest =>
    rw [List.length_cons]
    dsimp only
    split
    · refine ((parseAnd_threshold stop rest).mono (Nat.le_succ _)).bind ?_
      rintro ⟨right, r⟩ ⟨scope, b, hRight⟩
      have hShort := outcome_shorter hRight
      refine (requireFilter_threshold stop _ right r).bind ?_
      intro f _
      have hLe : r.length ≤ rest.length + 1 := by omega
      exact ((parseOrs_threshold stop r).mono hLe).map fun (others, after) =>
        (f :: others, after)
    · exact .ok _
  termination_by ts.length * 4
  decreasing_by all_goals simp only [List.length_cons]; omega

theorem parseAnd_threshold (stop : Nat) (ts : List Token) :
    HasThreshold stop ts.length fun scope b => (parseAnd scope b ts).outcome := by
  refine .congr (fun scope b => outcome_parseAnd scope b ts) ?_
  refine (parseNot_threshold stop ts).bind ?_
  rintro ⟨operand, rest⟩ ⟨scope, b, hOperand⟩
  have hShort := outcome_shorter hOperand
  dsimp only
  split
  · refine (requireFilter_threshold stop _ operand rest).bind ?_
    intro f _
    have hLe : rest.length ≤ ts.length := by omega
    exact ((parseAnds_threshold stop rest).mono hLe).map fun (others, after) =>
      (Operand.filter (.allOf (f :: others)), after)
  · exact .ok _
  termination_by ts.length * 4 + 2
  decreasing_by all_goals omega

theorem parseAnds_threshold (stop : Nat) (ts : List Token) :
    HasThreshold stop ts.length fun scope b => (parseAnds scope b ts).outcome := by
  refine .congr (fun scope b => outcome_parseAnds scope b ts) ?_
  cases ts with
  | nil => exact .ok _
  | cons t rest =>
    rw [List.length_cons]
    dsimp only
    split
    · refine ((parseNot_threshold stop rest).mono (Nat.le_succ _)).bind ?_
      rintro ⟨right, r⟩ ⟨scope, b, hRight⟩
      have hShort := outcome_shorter hRight
      refine (requireFilter_threshold stop _ right r).bind ?_
      intro f _
      have hLe : r.length ≤ rest.length + 1 := by omega
      exact ((parseAnds_threshold stop r).mono hLe).map fun (others, after) =>
        (f :: others, after)
    · exact .ok _
  termination_by ts.length * 4
  decreasing_by all_goals simp only [List.length_cons]; omega

theorem parseNot_threshold (stop : Nat) (ts : List Token) :
    HasThreshold stop ts.length fun scope b => (parseNot scope b ts).outcome := by
  refine .congr (fun scope b => outcome_parseNot scope b ts) ?_
  cases ts with
  | nil => exact .unexpected .expression []
  | cons t rest =>
    rw [List.length_cons]
    dsimp only
    split
    · have hInner : HasThreshold stop rest.length fun scope b =>
          (parseNot scope b rest).outcome >>= fun (operand, rest) =>
            requireFilter scope operand rest >>= fun f =>
              .ok (Operand.filter (.negate f), rest) := by
        refine (parseNot_threshold stop rest).bind ?_
        rintro ⟨operand, r⟩ -
        exact (requireFilter_threshold stop _ operand r).map
          fun f => (Operand.filter (.negate f), r)
      exact hInner.nest (fun _ => rfl) fun _ _ => rfl
    · exact parsePredicate_threshold stop t rest
  termination_by ts.length * 4 + 1
  decreasing_by all_goals simp only [List.length_cons]; omega

theorem parsePredicate_threshold (stop : Nat) (t : Token) (ts : List Token) :
    HasThreshold stop (ts.length + 1) fun scope b => (parsePredicate scope b t ts).outcome := by
  refine .congr (fun scope b => outcome_parsePredicate scope b t ts) ?_
  split
  · exact .ok _
  · exact .ok _
  · exact ((parseIds_threshold stop ts).mono (Nat.le_succ _)).asOperand
  · have hInner : HasThreshold stop ts.length fun scope b =>
        (parseOr scope b ts).outcome >>= fun (group, rest) =>
          (expectClosing scope t rest).outcome >>= fun (_, rest) =>
            -- The level of the parenthesis is back for what follows it.
            afterGroup scope (b + 1) t.offset rest group := by
      refine (parseOr_threshold stop ts).bind ?_
      rintro ⟨group, rest⟩ ⟨scope, b, hGroup⟩
      have hShort := outcome_shorter hGroup
      refine (expectClosing_threshold stop _ t rest).bind ?_
      rintro ⟨closing, rest'⟩ ⟨scope, b, hClosing⟩
      have hShort' := outcome_shorter hClosing
      exact (afterGroup_threshold stop t.offset rest' group).shift.mono (by omega)
    exact hInner.nest (fun _ => rfl) fun _ _ => rfl
  · split
    · next op _ =>
      exact ((parseSpatial_threshold stop op t ts).mono (Nat.le_succ _)).asOperand
    · exact parseComparison_threshold stop t ts
  termination_by (ts.length + 1) * 4
  decreasing_by omega

end

end GeoFilter.Cql
