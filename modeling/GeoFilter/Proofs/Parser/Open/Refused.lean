import GeoFilter.Proofs.Parser.Completeness.Filter
import GeoFilter.Proofs.Parser.Open.Basic

set_option autoImplicit false

/-! # What is open takes its levels of the budget

Where more charged constructs are open than the budget has levels, the parser has failed at the
limit, whatever the tokens after that place are. Like a derivation, an expression that is only begun
can stand inside another or at the start of a predicate, so it has one fact for each. -/

namespace GeoFilter.Cql

open Grammar

variable {α β : Type} {scope : Scope} {b d n : Nat} {ks : List TokenKind} {e : Expression}

/-- Tokens of the kinds `ks` cannot be passed with less than `n` levels: the step fails at the
    limit, whatever follows them. -/
def Refuses (scope : Scope) (n : Nat) (ks : List TokenKind)
    (step : Nat → List Token → Except SyntaxError α) : Prop :=
  ∀ b u rest, u.map Token.kind = ks → b < n → ReachesLimit scope (step b (u ++ rest))

theorem refuses_zero (scope : Scope) (ks : List TokenKind)
    (step : Nat → List Token → Except SyntaxError α) : Refuses scope 0 ks step :=
  fun b _ _ _ hb => absurd hb b.not_lt_zero

/-- An expression that is begun is refused inside another and at the start of a predicate. -/
structure ExpressionRefused (scope : Scope) (n : Nat) (ks : List TokenKind)
    (step : Nat → List Token → Except SyntaxError (Expression × List Token)) : Prop where
  inside : Refuses scope n ks step
  atStart : Refuses scope n ks fun b ts => (parseNot scope b ts).outcome

/-- Operands of a connective are refused where they begin, and after the connective. -/
structure OperandsRefused (scope : Scope) (n : Nat) (ks : List TokenKind) (word : Keyword)
    (first : Nat → List Token → Except SyntaxError α)
    (further : Nat → List Token → Except SyntaxError β) : Prop where
  first : Refuses scope n ks first
  further : ∀ t : Token, t.kind = .keyword word →
    Refuses scope n ks fun b ts => further b (t :: ts)

/-- What the parser does with the beginning of a part that takes `n` levels. -/
def PartRefused (scope : Scope) (n : Nat) (ks : List TokenKind) : Part → Prop
  | .operand => ExpressionRefused scope n ks fun b ts => (parseOperand scope b ts).outcome
  | .product => ExpressionRefused scope n ks fun b ts => do
      let (operand, rest) ← (parseOperand scope b ts).outcome
      (parseFactors scope b operand rest).outcome
  | .sum => ExpressionRefused scope n ks fun b ts => (parseSum scope b ts).outcome
  | .items => Refuses scope n ks fun b ts => (parseItems scope b ts).outcome
  | .ids => Refuses scope n ks fun b ts => (parseIdList scope b ts).outcome
  | .predicate | .negation => Refuses scope n ks fun b ts => (parseNot scope b ts).outcome
  | .conjunction => OperandsRefused scope n ks .AND
      (fun b ts => (parseAnd scope b ts).outcome) fun b ts => (parseAnds scope b ts).outcome
  | .disjunction => OperandsRefused scope n ks .OR
      (fun b ts => (parseOr scope b ts).outcome) fun b ts => (parseOrs scope b ts).outcome

/-- Where no level is taken there is nothing to refuse. -/
theorem partRefused_zero (scope : Scope) (ks : List TokenKind) (part : Part) :
    PartRefused scope 0 ks part := by
  cases part with
  | operand | product | sum => exact ⟨refuses_zero scope ks _, refuses_zero scope ks _⟩
  | items => exact refuses_zero scope ks fun b ts => (parseItems scope b ts).outcome
  | ids => exact refuses_zero scope ks fun b ts => (parseIdList scope b ts).outcome
  | predicate | negation => exact refuses_zero scope ks fun b ts => (parseNot scope b ts).outcome
  | conjunction | disjunction => exact ⟨refuses_zero scope ks _, fun _ _ => refuses_zero scope ks _⟩

/-! ## Failures that are passed on -/

theorem parseAnd_reachesLimit {ts : List Token}
    (h : ReachesLimit scope (parseNot scope b ts).outcome) :
    ReachesLimit scope (parseAnd scope b ts).outcome := by
  rw [outcome_parseAnd]
  exact h.bind _

theorem parseOr_reachesLimit {ts : List Token}
    (h : ReachesLimit scope (parseAnd scope b ts).outcome) :
    ReachesLimit scope (parseOr scope b ts).outcome := by
  rw [outcome_parseOr]
  exact h.bind _

theorem parseItems_reachesLimit {ts : List Token}
    (h : ReachesLimit scope (parseSum scope b ts).outcome) :
    ReachesLimit scope (parseItems scope b ts).outcome := by
  rw [outcome_parseItems]
  cases ts with
  | nil =>
    rw [outcome_parseSum, outcome_parseOperand] at h
    exact absurd h (not_reachesLimit_unexpected .expression [])
  | cons t ts => exact h.bind _

theorem parseIdList_reachesLimit {ts : List Token}
    (h : ReachesLimit scope (parseOperand scope b ts).outcome) :
    ReachesLimit scope (parseIdList scope b ts).outcome := by
  rw [outcome_parseIdList]
  cases ts with
  | nil =>
    rw [outcome_parseOperand] at h
    exact absurd h (not_reachesLimit_unexpected .expression [])
  | cons t ts => exact h.bind _

/-- A list that fails at the limit is no empty one. -/
theorem parseArguments_reachesLimit {ts : List Token} (opened : Token)
    (h : ReachesLimit scope (parseItems scope b ts).outcome) :
    ReachesLimit scope (parseArguments scope b opened ts).outcome := by
  rw [outcome_parseArguments]
  cases ts with
  | nil =>
    rw [outcome_parseItems] at h
    exact absurd h (not_reachesLimit_unexpected .expression [])
  | cons t ts =>
    by_cases hClosing : t.isClosing
    · rw [outcome_parseItems] at h
      simp only [outcome_parseSum, outcome_parseOperand, outcome_parsePrimary,
        Token.isClosing_iff.1 hClosing] at h
      exact absurd h (not_reachesLimit_unexpected .expression (t :: ts))
    · simp only [if_neg hClosing]
      exact h.bind _

/-- A parenthesis at the start of a predicate holds a filter, or else an expression; either is read
    as a filter first. -/
theorem parseNot_opening {t : Token} {ts : List Token} (ht : t.kind = .opening)
    (h : ∀ b, b < n → ReachesLimit scope (parseOr scope b ts).outcome) (hb : b < n + 1) :
    ReachesLimit scope (parseNot scope b (t :: ts)).outcome := by
  have hNot : ¬ t.isKeyword .NOT := by rw [Token.isKeyword_iff, ht]; simp
  rw [outcome_parseNot]
  simp only [if_neg hNot]
  rw [outcome_parsePredicate]
  simp only [ht]
  cases b with
  | zero => exact reachesLimit_tooDeep scope ts
  | succ b => exact (h b (Nat.lt_of_succ_lt_succ hb)).bind _

/-! ## Expressions -/

/-- The beginning of an operand that nothing announces is refused at the start of a predicate as it
    is elsewhere. -/
theorem ExpressionRefused.of_plain
    (hPlain : ∀ u rest, u.map Token.kind = ks → Plain (u ++ rest))
    (h : Refuses scope n ks fun b ts => (parseOperand scope b ts).outcome) :
    PartRefused scope n ks .operand := by
  refine ⟨h, ?_⟩
  intro b u rest hu hb
  obtain ⟨start, hStart⟩ := @parseNot_of_plain scope b (u ++ rest) (hPlain u rest hu)
  show ReachesLimit scope (parseNot scope b (u ++ rest)).outcome
  rw [hStart]
  exact (h b u rest hu hb).bind _

theorem operandRefused_minus (h : PartRefused scope n ks .operand) :
    PartRefused scope (n + 1) (.arithmetic .sub :: ks) .operand := by
  refine .of_plain ?_ ?_
  · intro u rest hu
    obtain ⟨t, u, rfl, ht, hu⟩ := exists_of_map_cons hu
    exact ⟨by simp [spatialCall?, ht], by simp [ht], by simp [ht]⟩
  · intro b u rest hu hb
    obtain ⟨t, u, rfl, ht, hu⟩ := exists_of_map_cons hu
    show ReachesLimit scope (parseOperand scope b _).outcome
    rw [List.cons_append, outcome_parseOperand]
    simp only [ht]
    cases b with
    | zero => exact reachesLimit_tooDeep scope _
    | succ b => exact (h.inside b u rest hu (Nat.lt_of_succ_lt_succ hb)).bind _

theorem operandRefused_enclosed (h : PartRefused scope n ks .sum) :
    PartRefused scope (n + 1) (.opening :: ks) .operand := by
  constructor
  · intro b u rest hu hb
    obtain ⟨t, u, rfl, ht, hu⟩ := exists_of_map_cons hu
    show ReachesLimit scope (parseOperand scope b _).outcome
    rw [List.cons_append, outcome_parseOperand]
    simp only [ht]
    rw [outcome_parsePrimary]
    simp only [ht]
    cases b with
    | zero => exact reachesLimit_tooDeep scope _
    | succ b => exact (h.inside b u rest hu (Nat.lt_of_succ_lt_succ hb)).bind _
  · intro b u rest hu hb
    obtain ⟨t, u, rfl, ht, hu⟩ := exists_of_map_cons hu
    refine parseNot_opening ht ?_ hb
    intro b hb
    exact parseOr_reachesLimit (parseAnd_reachesLimit (h.atStart b u rest hu hb))

/-- The arguments of a call are read with the budget of the call. -/
theorem operandRefused_arguments {name : String} (hName : Text.sameLetters name "geometry")
    (h : PartRefused scope n ks .items) :
    PartRefused scope n (.name name :: .opening :: ks) .operand := by
  refine .of_plain ?_ ?_
  · intro u rest hu
    obtain ⟨t, u, rfl, ht, hu⟩ := exists_of_map_cons hu
    exact plain_of_geometry hName ht _
  · intro b u rest hu hb
    obtain ⟨t, u, rfl, ht, hu⟩ := exists_of_map_cons hu
    obtain ⟨opened, u, rfl, hOpened, hu⟩ := exists_of_map_cons hu
    have hArguments := parseArguments_reachesLimit opened (h b u rest hu hb)
    show ReachesLimit scope (parseOperand scope b _).outcome
    rw [List.cons_append, List.cons_append, outcome_parseOperand]
    simp only [ht]
    rw [outcome_parsePrimary]
    simp only [ht, Token.isOpening_iff.2 hOpened, hName, if_true]
    exact hArguments.bind _

theorem productRefused_factor (h : PartRefused scope n ks .operand) :
    PartRefused scope n ks .product :=
  ⟨fun b u rest hu hb => (h.inside b u rest hu hb).bind _, h.atStart⟩

theorem productRefused_factors {u : List TokenKind} {op : ArithmeticOp}
    (hLeft : Arithmetic .product d u e) (hOp : bindsTightly op)
    (h : PartRefused scope n ks .operand) :
    PartRefused scope n (u ++ .arithmetic op :: ks) .product := by
  -- The part on the left is read in full, and what is refused comes right after the operator.
  have hFactors : ∀ b t v rest, t.kind = .arithmetic op → v.map Token.kind = ks → b < n →
      ReachesLimit scope (parseFactors scope b e (t :: (v ++ rest))).outcome := by
    intro b t v rest ht hv hb
    rw [parseFactors_of_tight ht hOp]
    exact (h.inside b v rest hv hb).bind _
  have hReads := arithmeticReads scope hLeft
  constructor
  · intro b w rest hw hb
    obtain ⟨u, t, v, rfl, hu, ht, hv⟩ := exists_of_map_join hw
    rw [List.append_assoc, List.cons_append]
    exact (hReads.inside b u _ hu (apart_cons (by simp [ht]))).reachesLimit
      (hFactors b t v rest ht hv hb)
  · intro b w rest hw hb
    obtain ⟨u, t, v, rfl, hu, ht, hv⟩ := exists_of_map_join hw
    obtain ⟨start, hStart⟩ :=
      hReads.atStart b u (t :: (v ++ rest)) hu (apart_cons (by simp [ht]))
    rw [List.append_assoc, List.cons_append]
    exact hStart.reachesLimit ((hFactors b t v rest ht hv hb).bind _)

theorem sumRefused_term (h : PartRefused scope n ks .product) : PartRefused scope n ks .sum := by
  refine ⟨?_, h.atStart⟩
  intro b u rest hu hb
  have hTerms := (h.inside b u rest hu hb).bind
    fun (product, rest) => (parseTerms scope b product rest).outcome
  show ReachesLimit scope (parseSum scope b _).outcome
  rw [outcome_parseSum]
  simpa only [bind_assoc] using hTerms

theorem sumRefused_terms {u : List TokenKind} {op : ArithmeticOp}
    (hLeft : Arithmetic .sum d u e) (hOp : bindsTightly op = false)
    (h : PartRefused scope n ks .product) :
    PartRefused scope n (u ++ .arithmetic op :: ks) .sum := by
  have hTerms : ∀ b t v rest, t.kind = .arithmetic op → v.map Token.kind = ks → b < n →
      ReachesLimit scope (parseTerms scope b e (t :: (v ++ rest))).outcome := by
    intro b t v rest ht hv hb
    have hRight := (h.inside b v rest hv hb).bind
      fun (right, rest) => (parseTerms scope b (.arithmetic op e right) rest).outcome
    rw [parseTerms_of_loose ht hOp]
    simpa only [bind_assoc] using hRight
  have hReads := arithmeticReads scope hLeft
  constructor
  · intro b w rest hw hb
    obtain ⟨u, t, v, rfl, hu, ht, hv⟩ := exists_of_map_join hw
    rw [List.append_assoc, List.cons_append]
    exact (hReads.inside b u _ hu (loose_cons ht hOp)).reachesLimit
      (hTerms b t v rest ht hv hb)
  · intro b w rest hw hb
    obtain ⟨u, t, v, rfl, hu, ht, hv⟩ := exists_of_map_join hw
    obtain ⟨start, hStart⟩ := hReads.atStart b u (t :: (v ++ rest)) hu (loose_cons ht hOp)
    rw [List.append_assoc, List.cons_append]
    exact hStart.reachesLimit ((hTerms b t v rest ht hv hb).bind _)

/-! ## Lists -/

theorem itemsRefused_items {u : List TokenKind} (hFirst : Arithmetic .sum d u e)
    (h : PartRefused scope n ks .items) : PartRefused scope n (u ++ .comma :: ks) .items := by
  intro b w rest hw hb
  obtain ⟨u, comma, v, rfl, hu, hComma, hv⟩ := exists_of_map_join hw
  obtain ⟨k, us, rfl, -⟩ := arithmetic_starts hFirst
  obtain ⟨t, us, rfl, ht, hus⟩ := exists_of_map_cons hu
  have hRead := parseSum_reads scope b hFirst hu (settled_comma hComma (v ++ rest))
  show ReachesLimit scope (parseItems scope b _).outcome
  rw [List.append_assoc, List.cons_append, List.cons_append, outcome_parseItems]
  refine (hRead.bind _).reachesLimit ?_
  show ReachesLimit scope (if comma.isComma then _ else _)
  rw [if_pos (Token.isComma_iff.2 hComma)]
  exact (h b v rest hv hb).bind _

theorem idsRefused_ids {u : List TokenKind} {value : Value}
    (hFirst : Arithmetic .unary d u (.literal value)) (h : PartRefused scope n ks .ids) :
    PartRefused scope n (u ++ .comma :: ks) .ids := by
  intro b w rest hw hb
  obtain ⟨u, comma, v, rfl, hu, hComma, hv⟩ := exists_of_map_join hw
  obtain ⟨k, us, rfl, -⟩ := arithmetic_starts hFirst
  obtain ⟨t, us, rfl, ht, hus⟩ := exists_of_map_cons hu
  have hRead := (arithmeticReads scope hFirst).inside b (t :: us) (comma :: (v ++ rest)) hu
    (settled_comma hComma _).loose.apart
  show ReachesLimit scope (parseIdList scope b _).outcome
  rw [List.append_assoc, List.cons_append, List.cons_append, outcome_parseIdList]
  refine (hRead.bind _).reachesLimit ?_
  show ReachesLimit scope (if comma.isComma then _ else _)
  rw [if_pos (Token.isComma_iff.2 hComma)]
  exact (h b v rest hv hb).bind _

/-! ## Predicates -/

theorem predicateRefused_group (h : PartRefused scope n ks .disjunction) :
    PartRefused scope (n + 1) (.opening :: ks) .predicate := by
  intro b u rest hu hb
  obtain ⟨t, u, rfl, ht, hu⟩ := exists_of_map_cons hu
  exact parseNot_opening ht (fun b hb => h.first b u rest hu hb) hb

theorem predicateRefused_idsList (h : PartRefused scope n ks .ids) :
    PartRefused scope n (.keyword .IN :: .opening :: ks) .predicate := by
  intro b u rest hu hb
  obtain ⟨t, u, rfl, ht, hu⟩ := exists_of_map_cons hu
  obtain ⟨opened, u, rfl, hOpened, hu⟩ := exists_of_map_cons hu
  have hNot : ¬ t.isKeyword .NOT := by rw [Token.isKeyword_iff, ht]; simp
  show ReachesLimit scope (parseNot scope b _).outcome
  rw [List.cons_append, List.cons_append, outcome_parseNot]
  simp only [if_neg hNot]
  rw [outcome_parsePredicate]
  simp only [ht]
  rw [outcome_parseIds, expect_eq_ok.2 ⟨rfl, Token.isOpening_iff.2 hOpened⟩]
  exact ((h b u rest hu hb).bind _).bind _

theorem predicateRefused_call {name : String} {op : SpatialOp}
    (hName : SpatialOp.ofName? name = some op) (h : PartRefused scope n ks .items) :
    PartRefused scope n (.name name :: .opening :: ks) .predicate := by
  intro b u rest hu hb
  obtain ⟨t, u, rfl, ht, hu⟩ := exists_of_map_cons hu
  obtain ⟨opened, u, rfl, hOpened, hu⟩ := exists_of_map_cons hu
  show ReachesLimit scope (parseNot scope b _).outcome
  rw [List.cons_append, List.cons_append, outcome_parseNot_call hName ht hOpened]
  exact (parseArguments_reachesLimit opened (h b u rest hu hb)).bind _

/-- A predicate whose test is refused, after an expression that is read in full. -/
theorem predicateRefused_of_condition {u : List TokenKind} (hLeft : Arithmetic .sum d u e)
    (hSettled : ∀ v rest, v.map Token.kind = ks → Settled (v ++ rest))
    (h : ∀ start, Refuses scope n ks fun b ts => (parseCondition scope b e start ts).outcome) :
    PartRefused scope n (u ++ ks) .predicate := by
  intro b w rest hw hb
  obtain ⟨u, v, rfl, hu, hv⟩ := exists_of_map_append hw
  obtain ⟨start, hStart⟩ := parseNot_reads scope b hLeft hu (hSettled v rest hv)
  show ReachesLimit scope (parseNot scope b _).outcome
  rw [List.append_assoc]
  exact hStart.reachesLimit (h start b v rest hv hb)

theorem predicateRefused_right {u : List TokenKind} (op : CompareOp)
    (hLeft : Arithmetic .sum d u e) (h : PartRefused scope n ks .sum) :
    PartRefused scope n (u ++ .compare op :: ks) .predicate := by
  refine predicateRefused_of_condition hLeft ?_ ?_
  · intro v rest hv
    obtain ⟨t, v, rfl, ht, -⟩ := exists_of_map_cons hv
    exact settled_compare ht _
  · intro start b v rest hv hb
    obtain ⟨t, v, rfl, ht, hv⟩ := exists_of_map_cons hv
    show ReachesLimit scope (parseCondition scope b e start _).outcome
    rw [List.cons_append, outcome_parseCondition]
    simp only [ht]
    exact (h.inside b v rest hv hb).bind _

theorem predicateRefused_member {u : List TokenKind} (negated : Bool)
    (hLeft : Arithmetic .sum d u e) (h : PartRefused scope n ks .items) :
    PartRefused scope n (u ++ (turned negated ++ .keyword .IN :: .opening :: ks)) .predicate := by
  refine predicateRefused_of_condition hLeft
    (fun v rest hv => settled_turned negated hv rest) ?_
  intro start b v rest hv hb
  obtain ⟨v, hv, hCondition⟩ := parseCondition_member scope hv
  obtain ⟨opened, v, rfl, hOpened, hv⟩ := exists_of_map_cons hv
  show ReachesLimit scope (parseCondition scope b e start _).outcome
  rw [hCondition, List.cons_append, outcome_parseMembership,
    expect_eq_ok.2 ⟨rfl, Token.isOpening_iff.2 hOpened⟩]
  exact ((h b v rest hv hb).bind _).bind _

/-- A predicate whose range is refused, at either end of it. -/
theorem predicateRefused_of_range {u : List TokenKind} (negated : Bool)
    (hLeft : Arithmetic .sum d u e)
    (h : Refuses scope n ks fun b ts => (parseRange scope b e negated ts).outcome) :
    PartRefused scope n (u ++ (turned negated ++ .keyword .BETWEEN :: ks)) .predicate := by
  refine predicateRefused_of_condition hLeft
    (fun v rest hv => settled_turned negated hv rest) ?_
  intro start b v rest hv hb
  obtain ⟨v, hv, hCondition⟩ := parseCondition_range scope hv
  show ReachesLimit scope (parseCondition scope b e start _).outcome
  rw [hCondition]
  exact (h b v rest hv hb).bind _

theorem rangeRefused_low (negated : Bool) (h : PartRefused scope n ks .sum) :
    Refuses scope n ks fun b ts => (parseRange scope b e negated ts).outcome := by
  intro b u rest hu hb
  show ReachesLimit scope (parseRange scope b e negated _).outcome
  rw [outcome_parseRange]
  exact (h.inside b u rest hu hb).bind _

theorem rangeRefused_high {u : List TokenKind} {low : Expression} (negated : Bool)
    (hLow : Arithmetic .sum d u low) (h : PartRefused scope n ks .sum) :
    Refuses scope n (u ++ .keyword .AND :: ks) fun b ts =>
      (parseRange scope b e negated ts).outcome := by
  intro b w rest hw hb
  obtain ⟨u, t, v, rfl, hu, ht, hv⟩ := exists_of_map_join hw
  have hWord : (expect scope (·.isKeyword .AND) .andWord (t :: (v ++ rest))).outcome
      = .ok (t, v ++ rest) := expect_eq_ok.2 ⟨rfl, Token.isKeyword_iff.2 ht⟩
  show ReachesLimit scope (parseRange scope b e negated _).outcome
  rw [List.append_assoc, List.cons_append, outcome_parseRange]
  refine ((parseSum_reads scope b hLow hu (settled_keyword ht _)).bind _).reachesLimit ?_
  simp only [ok_bind, hWord]
  exact (h.inside b v rest hv hb).bind _

/-! ## Filters -/

theorem negationRefused_not (h : PartRefused scope n ks .negation) :
    PartRefused scope (n + 1) (.keyword .NOT :: ks) .negation := by
  intro b u rest hu hb
  obtain ⟨t, u, rfl, ht, hu⟩ := exists_of_map_cons hu
  show ReachesLimit scope (parseNot scope b _).outcome
  rw [List.cons_append, outcome_parseNot]
  simp only [Token.isKeyword_iff.2 ht, if_true]
  cases b with
  | zero => exact reachesLimit_tooDeep scope _
  | succ b => exact (h b u rest hu (Nat.lt_of_succ_lt_succ hb)).bind _

theorem parseAnds_reachesLimit {t : Token} {ts : List Token} (ht : t.kind = .keyword .AND)
    (h : ReachesLimit scope (parseNot scope b ts).outcome) :
    ReachesLimit scope (parseAnds scope b (t :: ts)).outcome := by
  rw [outcome_parseAnds]
  simp only [Token.isKeyword_iff.2 ht, if_true]
  exact h.bind _

theorem parseOrs_reachesLimit {t : Token} {ts : List Token} (ht : t.kind = .keyword .OR)
    (h : ReachesLimit scope (parseAnd scope b ts).outcome) :
    ReachesLimit scope (parseOrs scope b (t :: ts)).outcome := by
  rw [outcome_parseOrs]
  simp only [Token.isKeyword_iff.2 ht, if_true]
  exact h.bind _

theorem conjunctionRefused_conjunct (h : PartRefused scope n ks .negation) :
    PartRefused scope n ks .conjunction :=
  ⟨fun b u rest hu hb => parseAnd_reachesLimit (h b u rest hu hb),
    fun _ ht b u rest hu hb => parseAnds_reachesLimit ht (h b u rest hu hb)⟩

theorem disjunctionRefused_alternative (h : PartRefused scope n ks .conjunction) :
    PartRefused scope n ks .disjunction :=
  ⟨fun b u rest hu hb => parseOr_reachesLimit (h.first b u rest hu hb),
    fun _ ht b u rest hu hb => parseOrs_reachesLimit ht (h.first b u rest hu hb)⟩

theorem conjunctionRefused_conjuncts {u : List TokenKind} {f : Filter}
    (hFirst : Sentence .negation d u f) (h : PartRefused scope n ks .conjunction) :
    PartRefused scope n (u ++ .keyword .AND :: ks) .conjunction := by
  have hReads : PredicateReads scope d u f := sentenceReads scope hFirst
  constructor
  · intro b w rest hw hb
    obtain ⟨u, word, v, rfl, hu, hWord, hv⟩ := exists_of_map_join hw
    have hRead := hReads b u (word :: (v ++ rest)) hu (ending_word hWord (by simp) _)
    show ReachesLimit scope (parseAnd scope b _).outcome
    rw [List.append_assoc, List.cons_append, outcome_parseAnd]
    refine (hRead.bind _).reachesLimit ?_
    show ReachesLimit scope (if word.isKeyword .AND then _ else _)
    rw [if_pos (Token.isKeyword_iff.2 hWord)]
    exact (h.further word hWord b v rest hv hb).bind _
  · intro t ht b w rest hw hb
    obtain ⟨u, word, v, rfl, hu, hWord, hv⟩ := exists_of_map_join hw
    have hRead := hReads b u (word :: (v ++ rest)) hu (ending_word hWord (by simp) _)
    show ReachesLimit scope (parseAnds scope b (t :: _)).outcome
    rw [List.append_assoc, List.cons_append]
    exact (parseAnds_cons ht hRead).reachesLimit ((h.further word hWord b v rest hv hb).bind _)

theorem disjunctionRefused_alternatives {u : List TokenKind} {f : Filter}
    (hFirst : Sentence .conjunction d u f) (h : PartRefused scope n ks .disjunction) :
    PartRefused scope n (u ++ .keyword .OR :: ks) .disjunction := by
  have hReads : ConjunctionReads scope d u f := sentenceReads scope hFirst
  constructor
  · intro b w rest hw hb
    obtain ⟨u, word, v, rfl, hu, hWord, hv⟩ := exists_of_map_join hw
    have hRead := hReads b u (word :: (v ++ rest)) hu (ending_word hWord (by simp) _)
    show ReachesLimit scope (parseOr scope b _).outcome
    rw [List.append_assoc, List.cons_append, outcome_parseOr]
    refine (hRead.bind _).reachesLimit ?_
    show ReachesLimit scope (if word.isKeyword .OR then _ else _)
    rw [if_pos (Token.isKeyword_iff.2 hWord)]
    exact (h.further word hWord b v rest hv hb).bind _
  · intro t ht b w rest hw hb
    obtain ⟨u, word, v, rfl, hu, hWord, hv⟩ := exists_of_map_join hw
    have hRead := hReads b u (word :: (v ++ rest)) hu (ending_word hWord (by simp) _)
    show ReachesLimit scope (parseOrs scope b (t :: _)).outcome
    rw [List.append_assoc, List.cons_append]
    exact (parseOrs_cons ht hRead).reachesLimit ((h.further word hWord b v rest hv hb).bind _)

/-- The parser refuses a place where more levels are taken than it has, by induction on how the
    place is reached. -/
theorem partRefused (scope : Scope) {part : Part} {cs : List Construct} (h : Opens part cs ks) :
    PartRefused scope (charged cs) ks part := by
  induction h with
  | start | read | done | idsWord | test => exact partRefused_zero scope _ _
  | minus _ ih => exact operandRefused_minus ih
  | enclosed _ ih => exact operandRefused_enclosed ih
  | arguments hName _ ih => exact operandRefused_arguments hName ih
  | factor _ ih => exact productRefused_factor ih
  | factors hLeft hOp _ ih =>
    refine productRefused_factors hLeft ?_ ih
    rcases hOp with rfl | rfl <;> rfl
  | term _ ih => exact sumRefused_term ih
  | terms hLeft hOp _ ih =>
    refine sumRefused_terms hLeft ?_ ih
    rcases hOp with rfl | rfl <;> rfl
  | item _ ih => exact fun b u rest hu hb => parseItems_reachesLimit (ih.inside b u rest hu hb)
  | items hFirst _ ih => exact itemsRefused_items hFirst ih
  | id _ ih => exact fun b u rest hu hb => parseIdList_reachesLimit (ih.inside b u rest hu hb)
  | ids hFirst _ ih => exact idsRefused_ids hFirst ih
  | group _ ih => exact predicateRefused_group ih
  | idsList _ ih => exact predicateRefused_idsList ih
  | call hName _ ih => exact predicateRefused_call hName ih
  | left _ ih => exact ih.atStart
  | right op hLeft _ ih => exact predicateRefused_right op hLeft ih
  | member negated hLeft _ ih => exact predicateRefused_member negated hLeft ih
  | low negated hLeft _ ih =>
    exact predicateRefused_of_range negated hLeft (rangeRefused_low negated ih)
  | high negated hLeft hLow _ ih =>
    exact predicateRefused_of_range negated hLeft (rangeRefused_high negated hLow ih)
  | predicate _ ih => exact ih
  | not _ ih => exact negationRefused_not ih
  | conjunct _ ih => exact conjunctionRefused_conjunct ih
  | conjuncts hFirst _ ih => exact conjunctionRefused_conjuncts hFirst ih
  | alternative _ ih => exact disjunctionRefused_alternative ih
  | alternatives hFirst _ ih => exact disjunctionRefused_alternatives hFirst ih

end GeoFilter.Cql
