import GeoFilter.Proofs.Parser.Open.Exceeded.Expression
import GeoFilter.Proofs.Parser.Soundness.Filter
import GeoFilter.Proofs.Parser.Threshold.Filter

set_option autoImplicit false

/-! # A filter reaches the limit only where enough is open

A parenthesis at the start of a predicate is read as that of a filter. If the limit is reached in
it, the place is in the midst of a filter in parentheses, also where an expression stands there. -/

namespace GeoFilter.Cql

open Grammar

variable {scope : Scope}

/-! ## Predicates -/

theorem parseMembership_exceeds {b : Nat} {e : Expression} {negated : Bool} {ts : List Token}
    (h : ReachesLimit scope (parseMembership scope b e negated ts).outcome) :
    Exceeds b ts fun cs u => ∃ v, u = .opening :: v ∧ Opens .items cs v := by
  rw [outcome_parseMembership] at h
  obtain ⟨opened, rest, rfl, hOpened, h⟩ := h.of_expect
  have hFails := h.of_first fun items =>
    (unlimited_expectClosing scope opened items.2).bind fun _ => unlimited_ok _
  refine (parseItems_exceeds hFails).cons ?_
  intro cs u hu
  exact ⟨u, by rw [Token.isOpening_iff.1 hOpened], hu⟩

/-- The beginning of a range: of its lower end, or of its upper one after AND. -/
def RangeOpens (cs : List Construct) (u : List TokenKind) : Prop :=
  Opens .sum cs u ∨ ∃ d v low w, u = v ++ .keyword .AND :: w ∧ Arithmetic .sum d v low ∧
    Opens .sum cs w

theorem parseRange_exceeds {b : Nat} {e : Expression} {negated : Bool} {ts : List Token}
    (h : ReachesLimit scope (parseRange scope b e negated ts).outcome) :
    Exceeds b ts RangeOpens := by
  rw [outcome_parseRange] at h
  rcases h.of_bind with hFails | ⟨⟨low, r⟩, hLow, h⟩
  · exact (parseSum_exceeds hFails).imp fun _ _ => .inl
  · obtain ⟨word, rest, rfl, hWord, h⟩ := h.of_expect
    have hFails := h.of_first fun _ => unlimited_ok _
    refine .join (parseSum_sound hLow) (parseSum_exceeds hFails) ?_
    intro d cs u v hu hv
    rw [Token.isKeyword_iff.1 hWord]
    exact .inr ⟨d, u, low, v, rfl, hu, hv⟩

/-- A range that is begun after an expression is a predicate that is begun. -/
theorem opens_of_range {d : Nat} {cs : List Construct} {u v : List TokenKind} {e : Expression}
    (negated : Bool) (hLeft : Arithmetic .sum d u e) (h : RangeOpens cs v) :
    Opens .predicate cs (u ++ (turned negated ++ .keyword .BETWEEN :: v)) := by
  rcases h with hLow | ⟨d', v, low, w, rfl, hLow, hHigh⟩
  · exact .low negated hLeft hLow
  · exact .high negated hLeft hLow hHigh

theorem parseCondition_exceeds {b start : Nat} {all ts : List Token} {e : Expression}
    (h : ReachesLimit scope (parseCondition scope b e start ts).outcome)
    (hLeft : Reads b all ts (Arithmetic .sum · · e)) : Exceeds b all (Opens .predicate) := by
  rw [outcome_parseCondition] at h
  cases ts with
  | nil => exact absurd h (not_reachesLimit_ok _)
  | cons t after =>
    dsimp only at h
    split at h
    · next op hKind =>
      have hFails := h.of_first fun _ => unlimited_ok _
      refine .join hLeft (parseSum_exceeds hFails) ?_
      intro d cs u v hu hv
      rw [hKind]
      exact .right op hu hv
    · next hKind =>
      have hFails := h.of_first fun _ => unlimited_ok _
      refine .join hLeft (parseMembership_exceeds hFails) ?_
      intro d cs u v hu hv
      obtain ⟨v, rfl, hv⟩ := hv
      rw [hKind]
      exact .member false hu hv
    · have hFails := h.of_first fun _ => unlimited_ok _
      exact absurd hFails (unlimited_parsePattern scope e false after).not_reachesLimit
    · next hKind =>
      have hFails := h.of_first fun _ => unlimited_ok _
      refine .join hLeft (parseRange_exceeds hFails) ?_
      intro d cs u v hu hv
      rw [hKind]
      exact opens_of_range false hu hv
    · have hFails := h.of_first fun _ => unlimited_ok _
      exact absurd hFails (unlimited_parseNullTest scope e start after).not_reachesLimit
    · next hKind =>
      cases after with
      | nil => exact absurd h (not_reachesLimit_unexpected .negatable [])
      | cons t' after =>
        dsimp only at h
        split at h
        · next hKind' =>
          have hFails := h.of_first fun _ => unlimited_ok _
          refine .joinTwo hLeft (parseMembership_exceeds hFails) ?_
          intro d cs u v hu hv
          obtain ⟨v, rfl, hv⟩ := hv
          rw [hKind, hKind']
          exact .member true hu hv
        · have hFails := h.of_first fun _ => unlimited_ok _
          exact absurd hFails (unlimited_parsePattern scope e true after).not_reachesLimit
        · next hKind' =>
          have hFails := h.of_first fun _ => unlimited_ok _
          refine .joinTwo hLeft (parseRange_exceeds hFails) ?_
          intro d cs u v hu hv
          rw [hKind, hKind']
          exact opens_of_range true hu hv
        · exact absurd h (not_reachesLimit_unexpected .negatable (t' :: after))
    · exact absurd h (not_reachesLimit_ok _)

theorem parseIdList_exceeds {b : Nat} {ts : List Token}
    (h : ReachesLimit scope (parseIdList scope b ts).outcome) : Exceeds b ts (Opens .ids) := by
  rw [outcome_parseIdList] at h
  cases hts : ts with
  | nil =>
    rw [hts] at h
    exact absurd h (not_reachesLimit_unexpected .expression [])
  | cons t after =>
    have hLength : ts.length = after.length + 1 := by rw [hts, List.length_cons]
    rw [hts] at h
    dsimp only at h
    rcases h.of_bind with hFails | ⟨⟨item, r⟩, hItem, h⟩
    · exact (parseOperand_exceeds hFails).imp fun _ _ => .id
    · have hShort := outcome_shorter hItem
      have hFirst := parseOperand_sound hItem
      dsimp only at h
      split at h
      · exact absurd h (not_reachesLimit_ok _)
      · next value separator more =>
        split at h
        · next hComma =>
          have hFails := h.of_first fun _ => unlimited_ok _
          refine .join hFirst (parseIdList_exceeds hFails) ?_
          intro d cs u v hu hv
          rw [Token.isComma_iff.1 hComma]
          exact .ids hu hv
        · exact absurd h (not_reachesLimit_ok _)
      · exact absurd h (not_reachesLimit_unexpected .featureId (t :: after))
  termination_by ts.length
  decreasing_by all_goals simp only [List.length_cons] at *; omega

theorem parseIds_exceeds {b : Nat} {t : Token} {ts : List Token} (hKind : t.kind = .keyword .IN)
    (h : ReachesLimit scope (parseIds scope b ts).outcome) :
    Exceeds b (t :: ts) (Opens .predicate) := by
  rw [outcome_parseIds] at h
  obtain ⟨opened, rest, rfl, hOpened, h⟩ := h.of_expect
  have hFails := h.of_first fun (_, rest) =>
    (unlimited_expectClosing scope opened rest).bind fun _ => unlimited_ok _
  refine (parseIdList_exceeds hFails).consTwo ?_
  intro cs u hu
  rw [hKind, Token.isOpening_iff.1 hOpened]
  exact .idsList hu

theorem parseSpatial_exceeds {b : Nat} {op : SpatialOp} {name : String} {t : Token}
    {ts : List Token} (hKind : t.kind = .name name) (hName : SpatialOp.ofName? name = some op)
    (h : ReachesLimit scope (parseSpatial scope b op t ts).outcome) :
    Exceeds b (t :: ts) (Opens .predicate) := by
  rw [outcome_parseSpatial] at h
  obtain ⟨opened, rest, rfl, hOpened, h⟩ := h.of_expect
  have hFails := h.of_first fun arguments =>
    (unlimited_spatialFilter op t arguments.1).bind fun _ => unlimited_ok _
  refine (parseArguments_exceeds hFails).consTwo ?_
  intro cs u hu
  rw [hKind, Token.isOpening_iff.1 hOpened]
  exact .call hName hu

theorem afterOperand_exceeds {b start : Nat} {all ts : List Token} {e : Expression}
    (h : ReachesLimit scope (afterOperand scope b start e ts))
    (hLeft : Reads b all ts (Arithmetic .product · · e)) : Exceeds b all (Opens .predicate) := by
  rcases h.of_bind with hFails | ⟨⟨product, r⟩, hProduct, h⟩
  · exact (parseFactors_exceeds hFails hLeft).imp fun _ _ h => .left (.term h)
  · have hTerm := (parseFactors_sound hProduct hLeft).imp fun _ _ => Arithmetic.term
    dsimp only at h
    rcases h.of_bind with hFails | ⟨⟨sum, r'⟩, hSum, h⟩
    · exact (parseTerms_exceeds hFails hTerm).imp fun _ _ => .left
    · exact parseCondition_exceeds h (parseTerms_sound hSum hTerm)

/-! ## Filters -/

mutual

theorem parseOr_exceeds {b : Nat} {ts : List Token}
    (h : ReachesLimit scope (parseOr scope b ts).outcome) :
    Exceeds b ts (Opens .disjunction) := by
  rw [outcome_parseOr] at h
  rcases h.of_bind with hFails | ⟨⟨operand, r⟩, hOperand, h⟩
  · exact (parseAnd_exceeds hFails).imp fun _ _ => .alternative
  · have hShort := outcome_shorter hOperand
    have hFirst := parseAnd_sound hOperand
    dsimp only at h
    split at h
    · rcases h.of_bind with hFails | ⟨f, hFilter, hMore⟩
      · exact absurd hFails (unlimited_requireFilter scope operand r).not_reachesLimit
      · obtain rfl : operand = .filter f := requireFilter_eq_ok.1 hFilter
        exact parseOrs_exceeds (hMore.of_first fun _ => unlimited_ok _) hFirst
    · exact absurd h (not_reachesLimit_ok _)
  termination_by ts.length * 4 + 3
  decreasing_by all_goals omega

theorem parseOrs_exceeds {b : Nat} {all ts : List Token} {f : Filter}
    (h : ReachesLimit scope (parseOrs scope b ts).outcome)
    (hFirst : Reads b all ts (Sentence .conjunction · · f)) :
    Exceeds b all (Opens .disjunction) := by
  rw [outcome_parseOrs] at h
  cases hts : ts with
  | nil =>
    rw [hts] at h
    exact absurd h (not_reachesLimit_ok _)
  | cons t after =>
    have hLength : ts.length = after.length + 1 := by rw [hts, List.length_cons]
    rw [hts] at h hFirst
    dsimp only at h
    split at h
    · next hOr =>
      have hFurther : ∀ d cs u v, Sentence .conjunction d u f → Opens .disjunction cs v →
          Opens .disjunction cs (u ++ t.kind :: v) := by
        intro d cs u v hu hv
        rw [Token.isKeyword_iff.1 hOr]
        exact .alternatives hu hv
      rcases h.of_bind with hFails | ⟨⟨right, r⟩, hRight, h⟩
      · exact .join hFirst ((parseAnd_exceeds hFails).imp fun _ _ => .alternative) hFurther
      · have hShort := outcome_shorter hRight
        have hSecond := parseAnd_sound hRight
        dsimp only at h
        rcases h.of_bind with hFails | ⟨f', hFilter, hMore⟩
        · exact absurd hFails (unlimited_requireFilter scope right r).not_reachesLimit
        · obtain rfl : right = .filter f' := requireFilter_eq_ok.1 hFilter
          have hFails := hMore.of_first fun _ => unlimited_ok _
          exact .join hFirst (parseOrs_exceeds hFails hSecond) hFurther
    · exact absurd h (not_reachesLimit_ok _)
  termination_by ts.length * 4
  decreasing_by all_goals omega

theorem parseAnd_exceeds {b : Nat} {ts : List Token}
    (h : ReachesLimit scope (parseAnd scope b ts).outcome) :
    Exceeds b ts (Opens .conjunction) := by
  rw [outcome_parseAnd] at h
  rcases h.of_bind with hFails | ⟨⟨operand, r⟩, hOperand, h⟩
  · exact (parseNot_exceeds hFails).imp fun _ _ => .conjunct
  · have hShort := outcome_shorter hOperand
    have hFirst := parseNot_sound hOperand
    dsimp only at h
    split at h
    · rcases h.of_bind with hFails | ⟨f, hFilter, hMore⟩
      · exact absurd hFails (unlimited_requireFilter scope operand r).not_reachesLimit
      · obtain rfl : operand = .filter f := requireFilter_eq_ok.1 hFilter
        exact parseAnds_exceeds (hMore.of_first fun _ => unlimited_ok _) hFirst
    · exact absurd h (not_reachesLimit_ok _)
  termination_by ts.length * 4 + 2
  decreasing_by all_goals omega

theorem parseAnds_exceeds {b : Nat} {all ts : List Token} {f : Filter}
    (h : ReachesLimit scope (parseAnds scope b ts).outcome)
    (hFirst : Reads b all ts (Sentence .negation · · f)) :
    Exceeds b all (Opens .conjunction) := by
  rw [outcome_parseAnds] at h
  cases hts : ts with
  | nil =>
    rw [hts] at h
    exact absurd h (not_reachesLimit_ok _)
  | cons t after =>
    have hLength : ts.length = after.length + 1 := by rw [hts, List.length_cons]
    rw [hts] at h hFirst
    dsimp only at h
    split at h
    · next hAnd =>
      have hFurther : ∀ d cs u v, Sentence .negation d u f → Opens .conjunction cs v →
          Opens .conjunction cs (u ++ t.kind :: v) := by
        intro d cs u v hu hv
        rw [Token.isKeyword_iff.1 hAnd]
        exact .conjuncts hu hv
      rcases h.of_bind with hFails | ⟨⟨right, r⟩, hRight, h⟩
      · exact .join hFirst ((parseNot_exceeds hFails).imp fun _ _ => .conjunct) hFurther
      · have hShort := outcome_shorter hRight
        have hSecond := parseNot_sound hRight
        dsimp only at h
        rcases h.of_bind with hFails | ⟨f', hFilter, hMore⟩
        · exact absurd hFails (unlimited_requireFilter scope right r).not_reachesLimit
        · obtain rfl : right = .filter f' := requireFilter_eq_ok.1 hFilter
          have hFails := hMore.of_first fun _ => unlimited_ok _
          exact .join hFirst (parseAnds_exceeds hFails hSecond) hFurther
    · exact absurd h (not_reachesLimit_ok _)
  termination_by ts.length * 4
  decreasing_by all_goals omega

theorem parseNot_exceeds {b : Nat} {ts : List Token}
    (h : ReachesLimit scope (parseNot scope b ts).outcome) : Exceeds b ts (Opens .negation) := by
  rw [outcome_parseNot] at h
  cases hts : ts with
  | nil =>
    rw [hts] at h
    exact absurd h (not_reachesLimit_unexpected .expression [])
  | cons t after =>
    have hLength : ts.length = after.length + 1 := by rw [hts, List.length_cons]
    rw [hts] at h
    dsimp only at h
    split at h
    · next hNot =>
      have hKind := Token.isKeyword_iff.1 hNot
      cases b with
      | zero =>
        have hStart : Opens .predicate [] [] := .left (.term (.factor .start))
        exact .enter (c := .not) rfl (hKind ▸ .not (.predicate hStart))
      | succ b =>
        have hFails := h.of_first fun (operand, rest) =>
          (unlimited_requireFilter scope operand rest).bind fun _ => unlimited_ok _
        refine (parseNot_exceeds hFails).nest (c := .not) (fun _ => rfl) ?_
        intro cs u hu
        rw [hKind]
        exact .not hu
    · exact (parsePredicate_exceeds h).imp fun _ _ => .predicate
  termination_by ts.length * 4 + 1
  decreasing_by all_goals omega

theorem parsePredicate_exceeds {b : Nat} {t : Token} {ts : List Token}
    (h : ReachesLimit scope (parsePredicate scope b t ts).outcome) :
    Exceeds b (t :: ts) (Opens .predicate) := by
  by_cases hKind : t.kind = .opening
  · cases b with
    | zero =>
      have hStart : Opens .disjunction [] [] :=
        .alternative (.conjunct (.predicate (.left (.term (.factor .start)))))
      exact .enter (c := .group) rfl (hKind ▸ .group hStart)
    | succ b =>
      rw [outcome_parsePredicate_group scope b ts hKind] at h
      rcases h.of_bind with hFails | ⟨⟨group, r⟩, hGroup, h⟩
      · refine (parseOr_exceeds hFails).nest (c := .group) (fun _ => rfl) ?_
        intro cs u hu
        rw [hKind]
        exact .group hu
      · dsimp only at h
        rcases h.of_bind with hFails | ⟨⟨closing, r'⟩, hClosing, hAfter⟩
        · exact absurd hFails (unlimited_expectClosing scope t r).not_reachesLimit
        · obtain ⟨rfl, hClosed⟩ := expectClosing_eq_ok.1 hClosing
          have hInner := parseOr_sound hGroup
          cases group with
          | filter f =>
            simp only [afterGroup] at hAfter
            split at hAfter
            · exact absurd hAfter (not_reachesLimit_unexpected .connective r')
            · exact absurd hAfter (not_reachesLimit_ok _)
          | expression e =>
            refine afterOperand_exceeds hAfter (hInner.enclosed hKind hClosed ?_)
            intro d u hu
            exact .factor (.operand (.group hu))
  · rw [outcome_parsePredicate] at h
    split at h
    · exact absurd h (not_reachesLimit_ok _)
    · exact absurd h (not_reachesLimit_ok _)
    · next hIn => exact parseIds_exceeds hIn (h.of_first fun _ => unlimited_ok _)
    · next hOpening => exact absurd hOpening hKind
    · split at h
      · next op hCall =>
        obtain ⟨name, hName, hOp⟩ := spatialCall_eq_some hCall
        exact parseSpatial_exceeds hName hOp (h.of_first fun _ => unlimited_ok _)
      · rw [outcome_parseComparison] at h
        rcases h.of_bind with hFails | ⟨⟨left, r⟩, hLeft, h⟩
        · exact (parseSum_exceeds hFails).imp fun _ _ => .left
        · exact parseCondition_exceeds h (parseSum_sound hLeft)
  termination_by (ts.length + 1) * 4
  decreasing_by all_goals omega

end

end GeoFilter.Cql
