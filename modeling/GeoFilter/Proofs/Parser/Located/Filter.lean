import GeoFilter.Proofs.Parser.Completeness.Expression
import GeoFilter.Proofs.Parser.Located.Expression

set_option autoImplicit false

/-! # Where errors in filters point

A predicate fails at one of its own tokens, at the name or the parenthesis it starts with, or, for
a test against null, at the start of what is tested. -/

namespace GeoFilter.Cql

variable {source : String} {limit : Nat}

/-! ## Predicates -/

theorem parseMembership_located {b : Nat} {e : Expression} {negated : Bool} {ts : List Token}
    (h : AllStand source ts) :
    Located source (RestStands source)
      (parseMembership (.of source limit) b e negated ts).outcome := by
  rw [outcome_parseMembership]
  refine (expect_located h _ _).bind ?_
  rintro ⟨opened, rest⟩ - hOpened
  refine (parseItems_located rest hOpened.2).bind ?_
  rintro ⟨items, rest'⟩ - hItems
  exact (expectClosing_located hOpened.1 hItems.2).map fun _ hClosing => hClosing.2

theorem parsePattern_located {e : Expression} {negated : Bool} {ts : List Token}
    (h : AllStand source ts) :
    Located source (RestStands source) (parsePattern (.of source limit) e negated ts).outcome := by
  cases ts with
  | nil => exact .unexpected h _
  | cons t rest =>
    simp only [parsePattern]
    split
    · split
      · exact .ok h.tail
      · exact .errorAt h.head _
    · exact .unexpected h _

theorem parseRange_located {b : Nat} {e : Expression} {negated : Bool} {ts : List Token}
    (h : AllStand source ts) :
    Located source (RestStands source) (parseRange (.of source limit) b e negated ts).outcome := by
  rw [outcome_parseRange]
  refine (parseSum_located ts h).bind ?_
  rintro ⟨low, rest⟩ - hRest
  refine (expect_located hRest _ _).bind ?_
  rintro ⟨word, rest'⟩ - hWord
  exact (parseSum_located rest' hWord.2).map fun _ hRest' => hRest'

/-- Only here does an error point at a place without a token of its own. -/
theorem parseNullTest_located {e : Expression} {start : Nat} (hStart : StandsAt source start "")
    {ts : List Token} (h : AllStand source ts) :
    Located source (RestStands source) (parseNullTest (.of source limit) e start ts).outcome := by
  rw [outcome_parseNullTest]
  have hAfter : AllStand source (if ts.head?.any (·.isKeyword .NOT) then ts.tail else ts) := by
    split
    · exact fun t hMem => h t (List.mem_of_mem_tail hMem)
    · exact h
  refine (expect_located hAfter _ _).bind ?_
  rintro ⟨word, rest⟩ - hWord
  cases e with
  | attr name => exact .ok hWord.2
  | literal | defaultGeometry | arithmetic =>
    exact .error ⟨hStart, fun _ _ hCause => absurd rfl hCause⟩

/-- A predicate that is read for an operand. -/
theorem Located.asOperand {step : Except SyntaxError (Filter × List Token)}
    (h : Located source (RestStands source) step) :
    Located source (RestStands source)
      (step >>= fun (f, after) => .ok (Operand.filter f, after)) :=
  h.map fun _ hRest => hRest

theorem parseCondition_located {b : Nat} {e : Expression} {start : Nat}
    (hStart : StandsAt source start "") {ts : List Token} (h : AllStand source ts) :
    Located source (RestStands source)
      (parseCondition (.of source limit) b e start ts).outcome := by
  rw [outcome_parseCondition]
  cases ts with
  | nil => exact .ok h
  | cons t rest =>
    dsimp only
    split
    · exact (parseSum_located rest h.tail).map fun _ hRest => hRest
    · exact (parseMembership_located h.tail).asOperand
    · exact (parsePattern_located h.tail).asOperand
    · exact (parseRange_located h.tail).asOperand
    · exact (parseNullTest_located hStart h.tail).asOperand
    · cases rest with
      | nil => exact .unexpected h.tail _
      | cons t' rest' =>
        dsimp only
        split
        · exact (parseMembership_located h.tail.tail).asOperand
        · exact (parsePattern_located h.tail.tail).asOperand
        · exact (parseRange_located h.tail.tail).asOperand
        · exact .unexpected h.tail _
    · exact .ok h

theorem parseComparison_located {b : Nat} {t : Token} {ts : List Token}
    (h : AllStand source (t :: ts)) :
    Located source (RestStands source)
      (parseComparison (.of source limit) b (t :: ts)).outcome := by
  rw [outcome_parseComparison]
  refine (parseSum_located (t :: ts) h).bind ?_
  rintro ⟨left, rest⟩ - hRest
  exact parseCondition_located h.head.empty hRest

theorem parseIdList_located {b : Nat} (ts : List Token) : AllStand source ts →
    Located source (RestStands source) (parseIdList (.of source limit) b ts).outcome := by
  rw [outcome_parseIdList]
  cases ts with
  | nil => exact fun h => .unexpected h _
  | cons t rest =>
    intro h
    refine (parseOperand_located (t :: rest) h).bind ?_
    rintro ⟨item, after⟩ hItem hRest
    have hShort := outcome_shorter hItem
    cases item with
    | literal value =>
      cases after with
      | nil => exact .ok hRest
      | cons separator more =>
        dsimp only
        split
        · exact (parseIdList_located more hRest.tail).map fun _ hOthers => hOthers
        · exact .ok hRest
    | attr | defaultGeometry | arithmetic => exact .unexpected h _
  termination_by ts.length
  decreasing_by simp only [List.length_cons] at *; omega

theorem parseIds_located {b : Nat} {ts : List Token} (h : AllStand source ts) :
    Located source (RestStands source) (parseIds (.of source limit) b ts).outcome := by
  rw [outcome_parseIds]
  refine (expect_located h _ _).bind ?_
  rintro ⟨opened, rest⟩ - hOpened
  refine (parseIdList_located rest hOpened.2).bind ?_
  rintro ⟨values, rest'⟩ - hRest
  exact (expectClosing_located hOpened.1 hRest).map fun _ hClosing => hClosing.2

theorem coordinate_located {argument : Token × Expression} (h : argument.1.StandsIn source) :
    Located source (fun _ => True) (coordinate argument) := by
  unfold coordinate
  split
  · exact .ok trivial
  · exact .errorAt h _

theorem spatialFilter_located {op : SpatialOp} {name : Token} (hName : name.StandsIn source)
    {arguments : List (Token × Expression)} (h : ∀ a ∈ arguments, a.1.StandsIn source) :
    Located source (fun _ => True) (spatialFilter op name arguments) := by
  unfold spatialFilter
  split
  · exact .ok trivial
  · simp only [List.forall_mem_cons] at h
    obtain ⟨-, hx₁, hy₁, hx₂, hy₂, -⟩ := h
    refine (coordinate_located hx₁).bind fun _ _ _ => ?_
    refine (coordinate_located hy₁).bind fun _ _ _ => ?_
    refine (coordinate_located hx₂).bind fun _ _ _ => ?_
    exact (coordinate_located hy₂).map fun _ _ => trivial
  · exact .errorAt hName _

theorem parseSpatial_located {b : Nat} {op : SpatialOp} {name : Token}
    (hName : name.StandsIn source) {ts : List Token} (h : AllStand source ts) :
    Located source (RestStands source)
      (parseSpatial (.of source limit) b op name ts).outcome := by
  rw [outcome_parseSpatial]
  refine (expect_located h _ _).bind ?_
  rintro ⟨opened, rest⟩ - hOpened
  refine (parseArguments_located hOpened.1 rest hOpened.2).bind ?_
  rintro ⟨arguments, rest'⟩ - hItems
  exact (spatialFilter_located hName hItems.1).map fun _ _ => hItems.2

/-! ## Filters -/

theorem requireFilter_located {operand : Operand} {rest : List Token}
    (h : AllStand source rest) :
    Located source (fun _ => True) (requireFilter (.of source limit) operand rest) := by
  cases operand with
  | filter f => exact .ok trivial
  | expression e => exact .unexpected h _

theorem afterGroup_located {b start : Nat} (hStart : StandsAt source start "") {ts : List Token}
    (h : AllStand source ts) (group : Operand) :
    Located source (RestStands source) (afterGroup (.of source limit) b start ts group) := by
  cases group with
  | filter f =>
    rw [afterGroup]
    split
    · exact .unexpected h _
    · exact .ok h
  | expression e =>
    refine (parseFactors_located e ts h).bind ?_
    rintro ⟨product, rest⟩ - hRest
    refine (parseTerms_located product rest hRest).bind ?_
    rintro ⟨sum, rest'⟩ - hRest'
    exact parseCondition_located hStart hRest'

mutual

theorem parseOr_located {b : Nat} (ts : List Token) : AllStand source ts →
    Located source (RestStands source) (parseOr (.of source limit) b ts).outcome := by
  rw [outcome_parseOr]
  intro h
  refine (parseAnd_located ts h).bind ?_
  rintro ⟨operand, rest⟩ hOperand hRest
  have hShort := outcome_shorter hOperand
  dsimp only
  split
  · refine (requireFilter_located hRest).bind fun f _ _ => ?_
    exact (parseOrs_located rest hRest).map fun _ hOthers => hOthers
  · exact .ok hRest
  termination_by ts.length * 4 + 3
  decreasing_by all_goals omega

theorem parseOrs_located {b : Nat} (ts : List Token) : AllStand source ts →
    Located source (RestStands source) (parseOrs (.of source limit) b ts).outcome := by
  rw [outcome_parseOrs]
  cases ts with
  | nil => exact fun h => .ok h
  | cons t rest =>
    intro h
    dsimp only
    split
    · refine (parseAnd_located rest h.tail).bind ?_
      rintro ⟨right, r⟩ hRight hRest
      have hShort := outcome_shorter hRight
      refine (requireFilter_located hRest).bind fun f _ _ => ?_
      exact (parseOrs_located r hRest).map fun _ hOthers => hOthers
    · exact .ok h
  termination_by ts.length * 4
  decreasing_by all_goals simp only [List.length_cons]; omega

theorem parseAnd_located {b : Nat} (ts : List Token) : AllStand source ts →
    Located source (RestStands source) (parseAnd (.of source limit) b ts).outcome := by
  rw [outcome_parseAnd]
  intro h
  refine (parseNot_located ts h).bind ?_
  rintro ⟨operand, rest⟩ hOperand hRest
  have hShort := outcome_shorter hOperand
  dsimp only
  split
  · refine (requireFilter_located hRest).bind fun f _ _ => ?_
    exact (parseAnds_located rest hRest).map fun _ hOthers => hOthers
  · exact .ok hRest
  termination_by ts.length * 4 + 2
  decreasing_by all_goals omega

theorem parseAnds_located {b : Nat} (ts : List Token) : AllStand source ts →
    Located source (RestStands source) (parseAnds (.of source limit) b ts).outcome := by
  rw [outcome_parseAnds]
  cases ts with
  | nil => exact fun h => .ok h
  | cons t rest =>
    intro h
    dsimp only
    split
    · refine (parseNot_located rest h.tail).bind ?_
      rintro ⟨right, r⟩ hRight hRest
      have hShort := outcome_shorter hRight
      refine (requireFilter_located hRest).bind fun f _ _ => ?_
      exact (parseAnds_located r hRest).map fun _ hOthers => hOthers
    · exact .ok h
  termination_by ts.length * 4
  decreasing_by all_goals simp only [List.length_cons]; omega

theorem parseNot_located {b : Nat} (ts : List Token) : AllStand source ts →
    Located source (RestStands source) (parseNot (.of source limit) b ts).outcome := by
  rw [outcome_parseNot]
  cases ts with
  | nil => exact fun h => .unexpected h _
  | cons t rest =>
    intro h
    dsimp only
    split
    · cases b with
      | zero => exact .tooDeep h.tail
      | succ b =>
        refine (parseNot_located rest h.tail).bind ?_
        rintro ⟨operand, r⟩ - hRest
        exact (requireFilter_located hRest).map fun _ _ => hRest
    · exact parsePredicate_located rest h
  termination_by ts.length * 4 + 1
  decreasing_by all_goals simp only [List.length_cons]; omega

theorem parsePredicate_located {b : Nat} {t : Token} (ts : List Token) :
    AllStand source (t :: ts) →
    Located source (RestStands source) (parsePredicate (.of source limit) b t ts).outcome := by
  intro h
  by_cases hOpening : t.kind = .opening
  · cases b with
    | zero =>
      rw [outcome_parsePredicate]
      simp only [hOpening]
      exact .tooDeep h.tail
    | succ b =>
      rw [outcome_parsePredicate_group _ _ _ hOpening]
      refine (parseOr_located ts h.tail).bind ?_
      rintro ⟨group, rest⟩ - hRest
      refine (expectClosing_located h.head hRest).bind ?_
      rintro ⟨closing, rest'⟩ - hClosing
      exact afterGroup_located h.head.empty hClosing.2 group
  · rw [outcome_parsePredicate]
    split
    · exact .ok h.tail
    · exact .ok h.tail
    · exact (parseIds_located h.tail).asOperand
    · next hKind => exact absurd hKind hOpening
    · split
      · exact (parseSpatial_located h.head h.tail).asOperand
      · exact parseComparison_located h
  termination_by (ts.length + 1) * 4
  decreasing_by omega

end

end GeoFilter.Cql
