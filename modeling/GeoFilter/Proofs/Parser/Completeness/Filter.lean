import GeoFilter.Proofs.Parser.Completeness.Expression

set_option autoImplicit false

/-! # The parser reads every filter of the grammar

Tokens that derive a filter of some level are read as that filter, if no token follows that could
go on with it and the budget pays for their nesting; a smaller budget ends at the limit. -/

namespace GeoFilter.Cql

open Grammar

variable {scope : Scope} {b d d' : Nat} {ks : List TokenKind} {e : Expression}

/-! ## Expressions within a filter -/

theorem parseSum_reads (scope : Scope) (b : Nat) (h : Arithmetic .sum d ks e) {u rest : List Token}
    (hu : u.map Token.kind = ks) (hRest : Settled rest) :
    Affords scope b d (parseSum scope b (u ++ rest)).outcome (.ok (e, rest)) := by
  have hRead := (arithmeticReads scope h).inside b u rest hu hRest.loose
  exact hRead.trans_eq (parseTerms_of_settled hRest e)

/-- At the start of a predicate an expression is read together with its condition. -/
theorem parseNot_reads (scope : Scope) (b : Nat) (h : Arithmetic .sum d ks e) {u rest : List Token}
    (hu : u.map Token.kind = ks) (hRest : Settled rest) :
    ∃ start, Affords scope b d (parseNot scope b (u ++ rest)).outcome
      (parseCondition scope b e start rest).outcome := by
  obtain ⟨start, hStart⟩ := (arithmeticReads scope h).atStart b u rest hu hRest.loose
  rw [parseTerms_of_settled hRest] at hStart
  exact ⟨start, hStart⟩

theorem settled_closing {closing : Token} (h : closing.kind = .closing) (rest : List Token) :
    Settled (closing :: rest) := settled_cons (by simp [h]) (by simp [h])

theorem settled_comma {comma : Token} (h : comma.kind = .comma) (rest : List Token) :
    Settled (comma :: rest) := settled_cons (by simp [h]) (by simp [h])

theorem settled_compare {t : Token} {op : CompareOp} (h : t.kind = .compare op)
    (rest : List Token) : Settled (t :: rest) := settled_cons (by simp [h]) (by simp [h])

theorem settled_keyword {t : Token} {word : Keyword} (h : t.kind = .keyword word)
    (rest : List Token) : Settled (t :: rest) := settled_cons (by simp [h]) (by simp [h])

/-! ## Lists -/

theorem parseItems_reads (scope : Scope) (b : Nat) {es : List Expression}
    (h : Listing d ks es) {closing : Token}
    (hClosing : closing.kind = .closing) (rest : List Token) {u : List Token}
    (hu : u.map Token.kind = ks) :
    ∃ items, items.map Prod.snd = es ∧ Affords scope b d
      (parseItems scope b (u ++ closing :: rest)).outcome (.ok (items, closing :: rest)) := by
  induction h generalizing u with
  -- The token that a list starts with is kept for the errors; it decides nothing.
  | one h =>
    obtain ⟨k, v, rfl, -⟩ := arithmetic_starts h
    obtain ⟨t, u, rfl, ht, hv⟩ := exists_of_map_cons hu
    have hFirst := parseSum_reads scope b h hu (settled_closing hClosing rest)
    have hComma : ¬ closing.isComma := by rw [Token.isComma_iff, hClosing]; simp
    refine ⟨[(t, _)], rfl, ?_⟩
    rw [List.cons_append, outcome_parseItems]
    refine (hFirst.bind _).trans_eq ?_
    show (if closing.isComma then _ else _) = _
    rw [if_neg hComma]
  | more h _ ih =>
    obtain ⟨u₁, comma, u₂, rfl, hu₁, hComma, hu₂⟩ := exists_of_map_join hu
    obtain ⟨items, rfl, hOthers⟩ := ih hu₂
    obtain ⟨k, v, rfl, -⟩ := arithmetic_starts h
    obtain ⟨t, u₁, rfl, ht, hv⟩ := exists_of_map_cons hu₁
    have hFirst := parseSum_reads scope b h hu₁
      (settled_comma hComma (u₂ ++ closing :: rest))
    refine ⟨(t, _) :: items, rfl, ?_⟩
    rw [List.append_assoc, List.cons_append, List.cons_append, outcome_parseItems]
    refine (hFirst.bind _).trans ?_
    show Affords _ _ _ (if comma.isComma then _ else _) _
    rw [if_pos (Token.isComma_iff.2 hComma)]
    exact hOthers.bind _

theorem parseArguments_reads (scope : Scope) (b : Nat) {es : List Expression}
    (h : Listing d ks es) {closing : Token}
    (hClosing : closing.kind = .closing) (opened : Token) (rest : List Token) {u : List Token}
    (hu : u.map Token.kind = ks) :
    ∃ items, items.map Prod.snd = es ∧ Affords scope b d
      (parseArguments scope b opened (u ++ closing :: rest)).outcome (.ok (items, rest)) := by
  obtain ⟨items, hItems, hRead⟩ := parseItems_reads scope b h hClosing rest hu
  obtain ⟨k, v, rfl, hk⟩ := listing_starts h
  obtain ⟨t, u, rfl, ht, hv⟩ := exists_of_map_cons hu
  have hFirst : ¬ t.isClosing := by rw [Token.isClosing_iff, ht]; exact hk
  refine ⟨items, hItems, ?_⟩
  rw [List.cons_append, outcome_parseArguments]
  simp only [if_neg hFirst]
  refine (hRead.bind _).trans_eq ?_
  exact bind_of_eq_ok (expectClosing_eq_ok.2 ⟨rfl, hClosing⟩) _

theorem parseMembership_reads {es : List Expression} (h : Listing d ks es) {opened closing : Token}
    (hOpened : opened.kind = .opening) (hClosing : closing.kind = .closing) (e : Expression)
    (negated : Bool) (rest : List Token) {u : List Token} (hu : u.map Token.kind = ks) :
    Affords scope b d
      (parseMembership scope b e negated (opened :: (u ++ closing :: rest))).outcome
      (.ok (.oneOf e es negated, rest)) := by
  obtain ⟨items, rfl, hRead⟩ := parseItems_reads scope b h hClosing rest hu
  rw [outcome_parseMembership, expect_eq_ok.2 ⟨rfl, Token.isOpening_iff.2 hOpened⟩]
  refine (hRead.bind _).trans_eq ?_
  exact bind_of_eq_ok (expectClosing_eq_ok.2 ⟨rfl, hClosing⟩) _

/-! ## Identifiers -/

/-- An expression that is a literal has no operator in it. -/
theorem unary_of_literal {v : Value} (h : Arithmetic .sum d ks (.literal v)) :
    Arithmetic .unary d ks (.literal v) := by
  cases h with
  | term h =>
    cases h with
    | factor h => exact h

theorem parseIdList_reads {vs : List Value} (h : Listing d ks (vs.map Expression.literal))
    {closing : Token} (hClosing : closing.kind = .closing) (rest : List Token) {u : List Token}
    (hu : u.map Token.kind = ks) :
    Affords scope b d (parseIdList scope b (u ++ closing :: rest)).outcome
      (.ok (vs, closing :: rest)) := by
  -- The induction is on the listing, whose index must be a variable.
  generalize hes : vs.map Expression.literal = es at h
  induction h generalizing u vs with
  | one h =>
    obtain ⟨value, rest', rfl, rfl, hNil⟩ := List.map_eq_cons_iff.1 hes
    obtain rfl := List.map_eq_nil_iff.1 hNil
    obtain ⟨k, v, rfl, -⟩ := arithmetic_starts h
    obtain ⟨t, u, rfl, ht, hv⟩ := exists_of_map_cons hu
    have hItem := (arithmeticReads scope (unary_of_literal h)).inside b (t :: u)
      (closing :: rest) hu (settled_closing hClosing rest).loose.apart
    have hComma : ¬ closing.isComma := by rw [Token.isComma_iff, hClosing]; simp
    rw [List.cons_append, outcome_parseIdList]
    refine (hItem.bind _).trans_eq ?_
    show (if closing.isComma then _ else _) = _
    rw [if_neg hComma]
  | more h _ ih =>
    obtain ⟨value, vs, rfl, rfl, hOthers⟩ := List.map_eq_cons_iff.1 hes
    obtain ⟨u₁, comma, u₂, rfl, hu₁, hComma, hu₂⟩ := exists_of_map_join hu
    obtain ⟨k, v, rfl, -⟩ := arithmetic_starts h
    obtain ⟨t, u₁, rfl, ht, hv⟩ := exists_of_map_cons hu₁
    have hItem := (arithmeticReads scope (unary_of_literal h)).inside b (t :: u₁)
      (comma :: (u₂ ++ closing :: rest)) hu₁ (settled_comma hComma _).loose.apart
    rw [List.append_assoc, List.cons_append, List.cons_append, outcome_parseIdList]
    refine (hItem.bind _).trans ?_
    show Affords _ _ _ (if comma.isComma then _ else _) _
    rw [if_pos (Token.isComma_iff.2 hComma)]
    exact (ih hu₂ hOthers).bind _

theorem parseIds_reads {vs : List Value} (h : Listing d ks (vs.map Expression.literal))
    {opened closing : Token} (hOpened : opened.kind = .opening) (hClosing : closing.kind = .closing)
    (rest : List Token) {u : List Token} (hu : u.map Token.kind = ks) :
    Affords scope b d (parseIds scope b (opened :: (u ++ closing :: rest))).outcome
      (.ok (.ids vs, rest)) := by
  rw [outcome_parseIds, expect_eq_ok.2 ⟨rfl, Token.isOpening_iff.2 hOpened⟩]
  refine ((parseIdList_reads h hClosing rest hu).bind _).trans_eq ?_
  exact bind_of_eq_ok (expectClosing_eq_ok.2 ⟨rfl, hClosing⟩) _

/-! ## Spatial predicates -/

theorem spatialFilter_two {op : SpatialOp} {name : Token} {items : List (Token × Expression)}
    {left right : Expression} (h : items.map Prod.snd = [left, right]) :
    spatialFilter op name items = .ok (.spatial op left right) := by
  obtain ⟨a, items, rfl, rfl, hMore⟩ := List.map_eq_cons_iff.1 h
  obtain ⟨c, items, rfl, rfl, hNil⟩ := List.map_eq_cons_iff.1 hMore
  obtain rfl := List.map_eq_nil_iff.1 hNil
  cases op <;> rfl

theorem spatialFilter_box {name : Token} {items : List (Token × Expression)} {x₁ y₁ x₂ y₂ : Float}
    (h : items.map Prod.snd = [e, .literal (.number x₁), .literal (.number y₁),
      .literal (.number x₂), .literal (.number y₂)]) :
    spatialFilter .bbox name items = .ok (.inBox e ⟨x₁, y₁⟩ ⟨x₂, y₂⟩) := by
  obtain ⟨a, items, rfl, rfl, hItems⟩ := List.map_eq_cons_iff.1 h
  obtain ⟨i₁, items₁, rfl, h₁, hItems₁⟩ := List.map_eq_cons_iff.1 hItems
  obtain ⟨i₂, items₂, rfl, h₂, hItems₂⟩ := List.map_eq_cons_iff.1 hItems₁
  obtain ⟨i₃, items₃, rfl, h₃, hItems₃⟩ := List.map_eq_cons_iff.1 hItems₂
  obtain ⟨i₄, items₄, rfl, h₄, hNil⟩ := List.map_eq_cons_iff.1 hItems₃
  obtain rfl := List.map_eq_nil_iff.1 hNil
  rw [← coordinate_eq_ok] at h₁ h₂ h₃ h₄
  simp only [spatialFilter, h₁, h₂, h₃, h₄, ok_bind]

/-- A name before a parenthesis calls a spatial predicate at the start of a predicate. -/
theorem outcome_parseNot_call {name : String} {op : SpatialOp} {t opened : Token}
    (hName : SpatialOp.ofName? name = some op) (ht : t.kind = .name name)
    (hOpened : opened.kind = .opening) (rest : List Token) :
    (parseNot scope b (t :: opened :: rest)).outcome = (do
      let (arguments, rest) ← (parseArguments scope b opened rest).outcome
      let f ← spatialFilter op t arguments
      .ok (.filter f, rest)) := by
  have hNot : ¬ t.isKeyword .NOT := by rw [Token.isKeyword_iff, ht]; simp
  have hOpening := Token.isOpening_iff.2 hOpened
  have hCall : spatialCall? t (opened :: rest) = some op := by
    simp only [spatialCall?, ht, hOpening, if_true, hName]
  rw [outcome_parseNot]
  simp only [if_neg hNot]
  rw [outcome_parsePredicate]
  simp only [ht, hCall]
  rw [outcome_parseSpatial, expect_eq_ok.2 ⟨rfl, hOpening⟩]
  simp only [ok_bind, bind_assoc]

/-- A call of a spatial predicate is read at the start of a predicate. -/
theorem parseNot_call {name : String} {op : SpatialOp} {es : List Expression} {f : Filter}
    (hName : SpatialOp.ofName? name = some op) (h : Listing d ks es)
    (hFilter : ∀ (t : Token) items, items.map Prod.snd = es → spatialFilter op t items = .ok f)
    {t opened closing : Token} (ht : t.kind = .name name) (hOpened : opened.kind = .opening)
    (hClosing : closing.kind = .closing) (rest : List Token) {u : List Token}
    (hu : u.map Token.kind = ks) :
    Affords scope b d (parseNot scope b (t :: opened :: (u ++ closing :: rest))).outcome
      (.ok (.filter f, rest)) := by
  obtain ⟨items, hItems, hRead⟩ :=
    parseArguments_reads scope b h hClosing opened rest hu
  rw [outcome_parseNot_call hName ht hOpened]
  refine (hRead.bind _).trans_eq ?_
  simp only [ok_bind, hFilter t items hItems]

/-! ## What follows a filter -/

/-- Either nothing is left, or a closing parenthesis, or one of certain words. -/
def Ending (words : List Keyword) (rest : List Token) : Prop :=
  ∀ t ∈ rest.head?, t.kind = .closing ∨ ∃ word ∈ words, t.kind = .keyword word

theorem ending_nil (words : List Keyword) : Ending words [] := fun _ ht => nomatch ht

theorem ending_closing {t : Token} (h : t.kind = .closing) (words : List Keyword)
    (rest : List Token) : Ending words (t :: rest) := by
  intro t' ht
  obtain rfl := Option.some.inj ht
  exact .inl h

theorem ending_word {t : Token} {word : Keyword} {words : List Keyword}
    (h : t.kind = .keyword word) (hWord : word ∈ words) (rest : List Token) :
    Ending words (t :: rest) := by
  intro t' ht
  obtain rfl := Option.some.inj ht
  exact .inr ⟨word, hWord, h⟩

namespace Ending

variable {words words' : List Keyword} {rest : List Token}

theorem mono (h : Ending words rest) (hWords : words ⊆ words') : Ending words' rest := by
  intro t ht
  rcases h t ht with hClosing | ⟨word, hWord, hKind⟩
  · exact .inl hClosing
  · exact .inr ⟨word, hWords hWord, hKind⟩

theorem settled (h : Ending words rest) : Settled rest := by
  intro t ht
  rcases h t ht with hClosing | ⟨word, -, hKind⟩
  · simp [hClosing]
  · simp [hKind]

theorem not_word (h : Ending words rest) {word : Keyword} (hWord : word ∉ words) :
    ¬ rest.head?.any (·.isKeyword word) := by
  rw [head_isKeyword_iff]
  rintro ⟨t, after, rfl, ht⟩
  rcases h t rfl with hClosing | ⟨word', hWord', hKind⟩
  · rw [ht] at hClosing
    exact absurd hClosing (by simp)
  · rw [ht] at hKind
    exact hWord (TokenKind.keyword.inj hKind ▸ hWord')

/-- After a filter only AND and OR go on, and neither goes on with an expression. -/
theorem not_continues (h : Ending [.AND, .OR] rest) :
    ¬ rest.head?.any Token.continuesExpression := by
  cases rest with
  | nil => simp
  | cons t rest =>
    rcases h t rfl with hClosing | ⟨word, hWord, hKind⟩
    · simp [Token.continuesExpression, hClosing]
    · rcases List.mem_cons.1 hWord with rfl | hWord
      · simp [Token.continuesExpression, hKind]
      · simp [Token.continuesExpression, hKind, List.mem_singleton.1 hWord]

end Ending

/-! ## Derivations of filters -/

/-- A predicate, with any NOT before it, is read as itself. -/
def PredicateReads (scope : Scope) (d : Nat) (ks : List TokenKind) (f : Filter) : Prop :=
  ∀ b u rest, u.map Token.kind = ks → Ending [.AND, .OR] rest →
    Affords scope b d (parseNot scope b (u ++ rest)).outcome (.ok (.filter f, rest))

/-- The operands of AND are read as a conjunction, and after an AND as the further operands of
    one. -/
structure ConjunctsRead (scope : Scope) (d : Nat) (ks : List TokenKind) (fs : List Filter) :
    Prop where
  first : ∀ b u rest, u.map Token.kind = ks → Ending [.OR] rest →
    Affords scope b d (parseAnd scope b (u ++ rest)).outcome
      (.ok (.filter (Filter.allOf fs), rest))
  further : ∀ b t u rest, t.kind = .keyword .AND → u.map Token.kind = ks → Ending [.OR] rest →
    Affords scope b d (parseAnds scope b (t :: (u ++ rest))).outcome (.ok (fs, rest))

/-- A conjunction is read as itself. -/
def ConjunctionReads (scope : Scope) (d : Nat) (ks : List TokenKind) (f : Filter) : Prop :=
  ∀ b u rest, u.map Token.kind = ks → Ending [.OR] rest →
    Affords scope b d (parseAnd scope b (u ++ rest)).outcome (.ok (.filter f, rest))

/-- The operands of OR are read as a disjunction, and after an OR as the further operands of
    one. -/
structure AlternativesRead (scope : Scope) (d : Nat) (ks : List TokenKind) (fs : List Filter) :
    Prop where
  first : ∀ b u rest, u.map Token.kind = ks → Ending [] rest →
    Affords scope b d (parseOr scope b (u ++ rest)).outcome
      (.ok (.filter (Filter.anyOf fs), rest))
  further : ∀ b t u rest, t.kind = .keyword .OR → u.map Token.kind = ks → Ending [] rest →
    Affords scope b d (parseOrs scope b (t :: (u ++ rest))).outcome (.ok (fs, rest))

/-- A disjunction is read as itself. -/
def DisjunctionReads (scope : Scope) (d : Nat) (ks : List TokenKind) (f : Filter) : Prop :=
  ∀ b u rest, u.map Token.kind = ks → Ending [] rest →
    Affords scope b d (parseOr scope b (u ++ rest)).outcome (.ok (.filter f, rest))

/-- What the parser does with tokens that derive a filter. -/
def SentenceReads (scope : Scope) : (l : Level) → Nat → List TokenKind → l.Meaning → Prop
  | .disjunction => DisjunctionReads scope
  | .alternatives => AlternativesRead scope
  | .conjunction => ConjunctionReads scope
  | .conjuncts => ConjunctsRead scope
  | .negation | .predicate => PredicateReads scope

/-! ## Connectives -/

theorem parseAnds_of_ending {words : List Keyword} {rest : List Token} (h : Ending words rest)
    (hWord : Keyword.AND ∉ words) : (parseAnds scope b rest).outcome = .ok ([], rest) := by
  rw [outcome_parseAnds]
  cases rest with
  | nil => rfl
  | cons t rest =>
    have hAnd : ¬ t.isKeyword .AND := by simpa using h.not_word hWord
    simp only [if_neg hAnd]

theorem parseOrs_of_ending {words : List Keyword} {rest : List Token} (h : Ending words rest)
    (hWord : Keyword.OR ∉ words) : (parseOrs scope b rest).outcome = .ok ([], rest) := by
  rw [outcome_parseOrs]
  cases rest with
  | nil => rfl
  | cons t rest =>
    have hOr : ¬ t.isKeyword .OR := by simpa using h.not_word hWord
    simp only [if_neg hOr]

theorem parseAnds_cons {t : Token} {f : Filter} {ts rest : List Token}
    (ht : t.kind = .keyword .AND)
    (h : Affords scope b d (parseNot scope b ts).outcome (.ok (.filter f, rest))) :
    Affords scope b d (parseAnds scope b (t :: ts)).outcome (do
      let (others, rest) ← (parseAnds scope b rest).outcome
      .ok (f :: others, rest)) := by
  rw [outcome_parseAnds]
  simp only [Token.isKeyword_iff.2 ht, if_true]
  exact (h.bind _).trans_eq rfl

theorem parseOrs_cons {t : Token} {f : Filter} {ts rest : List Token} (ht : t.kind = .keyword .OR)
    (h : Affords scope b d (parseAnd scope b ts).outcome (.ok (.filter f, rest))) :
    Affords scope b d (parseOrs scope b (t :: ts)).outcome (do
      let (others, rest) ← (parseOrs scope b rest).outcome
      .ok (f :: others, rest)) := by
  rw [outcome_parseOrs]
  simp only [Token.isKeyword_iff.2 ht, if_true]
  exact (h.bind _).trans_eq rfl

theorem PredicateReads.conjunct {f : Filter} (h : PredicateReads scope d ks f) :
    ConjunctsRead scope d ks [f] := by
  constructor
  · intro b u rest hu hRest
    have hNot := h b u rest hu (hRest.mono (by simp))
    exact parseAnd_of_parseNot hNot (hRest.not_word (by simp))
  · intro b t u rest ht hu hRest
    refine (parseAnds_cons ht (h b u rest hu (hRest.mono (by simp)))).trans_eq ?_
    rw [parseAnds_of_ending hRest (by simp)]
    rfl

theorem ConjunctionReads.alternative {f : Filter} (h : ConjunctionReads scope d ks f) :
    AlternativesRead scope d ks [f] := by
  constructor
  · intro b u rest hu hRest
    have hAnd := h b u rest hu (hRest.mono (by simp))
    exact parseOr_of_parseAnd hAnd (hRest.not_word (by simp))
  · intro b t u rest ht hu hRest
    refine (parseOrs_cons ht (h b u rest hu (hRest.mono (by simp)))).trans_eq ?_
    rw [parseOrs_of_ending hRest (by simp)]
    rfl

theorem PredicateReads.conjuncts {v w : List TokenKind} {f : Filter} {fs : List Filter}
    (hFirst : PredicateReads scope d v f) (hOthers : ConjunctsRead scope d' w fs) :
    ConjunctsRead scope (max d d') (v ++ .keyword .AND :: w) (f :: fs) := by
  constructor
  · intro b u rest hu hRest
    obtain ⟨u, word, u', rfl, hu, hWord, hu'⟩ := exists_of_map_join hu
    have hRead := hFirst b u (word :: (u' ++ rest)) hu (ending_word hWord (by simp) _)
    rw [List.append_assoc, List.cons_append, outcome_parseAnd]
    refine (hRead.bind _).trans ?_
    -- The first operand stops at the AND, and the others are read from there.
    show Affords _ _ _ (if word.isKeyword .AND then _ else _) _
    rw [if_pos (Token.isKeyword_iff.2 hWord)]
    exact ((hOthers.further b word u' rest hWord hu' hRest).bind _).trans_eq rfl
  · intro b t u rest ht hu hRest
    obtain ⟨u, word, u', rfl, hu, hWord, hu'⟩ := exists_of_map_join hu
    have hRead := hFirst b u (word :: (u' ++ rest)) hu (ending_word hWord (by simp) _)
    rw [List.append_assoc, List.cons_append]
    exact (parseAnds_cons ht hRead).trans ((hOthers.further b word u' rest hWord hu' hRest).bind _)

theorem ConjunctionReads.alternatives {v w : List TokenKind} {f : Filter} {fs : List Filter}
    (hFirst : ConjunctionReads scope d v f) (hOthers : AlternativesRead scope d' w fs) :
    AlternativesRead scope (max d d') (v ++ .keyword .OR :: w) (f :: fs) := by
  constructor
  · intro b u rest hu hRest
    obtain ⟨u, word, u', rfl, hu, hWord, hu'⟩ := exists_of_map_join hu
    have hRead := hFirst b u (word :: (u' ++ rest)) hu (ending_word hWord (by simp) _)
    rw [List.append_assoc, List.cons_append, outcome_parseOr]
    refine (hRead.bind _).trans ?_
    show Affords _ _ _ (if word.isKeyword .OR then _ else _) _
    rw [if_pos (Token.isKeyword_iff.2 hWord)]
    exact ((hOthers.further b word u' rest hWord hu' hRest).bind _).trans_eq rfl
  · intro b t u rest ht hu hRest
    obtain ⟨u, word, u', rfl, hu, hWord, hu'⟩ := exists_of_map_join hu
    have hRead := hFirst b u (word :: (u' ++ rest)) hu (ending_word hWord (by simp) _)
    rw [List.append_assoc, List.cons_append]
    exact (parseOrs_cons ht hRead).trans ((hOthers.further b word u' rest hWord hu' hRest).bind _)

theorem PredicateReads.not {v : List TokenKind} {f : Filter} (h : PredicateReads scope d v f) :
    PredicateReads scope (d + 1) (.keyword .NOT :: v) (Filter.negate f) := by
  intro b u rest hu hRest
  obtain ⟨t, u, rfl, ht, hu⟩ := exists_of_map_cons hu
  rw [List.cons_append, outcome_parseNot]
  simp only [Token.isKeyword_iff.2 ht, if_true]
  cases b with
  | zero => exact .zero (reachesLimit_tooDeep scope _)
  | succ b => exact (((h b u rest hu hRest).bind _).trans_eq rfl).succ

theorem DisjunctionReads.group {v : List TokenKind} {f : Filter}
    (h : DisjunctionReads scope d v f) :
    PredicateReads scope (d + 1) (.opening :: (v ++ [.closing])) f := by
  intro b u rest hu hRest
  obtain ⟨opened, inner, closing, rfl, hOpened, hInner, hClosing⟩ := exists_of_map_enclosed hu
  have hNot : ¬ opened.isKeyword .NOT := by rw [Token.isKeyword_iff, hOpened]; simp
  rw [enclosed_append, outcome_parseNot]
  simp only [if_neg hNot]
  rw [outcome_parsePredicate]
  simp only [hOpened]
  cases b with
  | zero => exact .zero (reachesLimit_tooDeep scope _)
  | succ b =>
    refine (((h b inner _ hInner (ending_closing hClosing _ _)).bind _).trans_eq ?_).succ
    -- After a filter in parentheses nothing may go on with an expression.
    simp only [ok_bind, expectClosing_eq_ok.2 ⟨rfl, hClosing⟩, if_neg hRest.not_continues]

/-! ## Predicates -/

theorem parseNot_word {t : Token} (rest : List Token) {word : Keyword} {f : Filter}
    (ht : t.kind = .keyword word)
    (h : (word = .INCLUDE ∧ f = .everything) ∨ (word = .EXCLUDE ∧ f = .nothing)) :
    (parseNot scope b (t :: rest)).outcome = .ok (.filter f, rest) := by
  have hNot : ¬ t.isKeyword .NOT := by
    rw [Token.isKeyword_iff, ht]
    rcases h with ⟨rfl, -⟩ | ⟨rfl, -⟩ <;> simp
  rw [outcome_parseNot]
  simp only [if_neg hNot]
  rw [outcome_parsePredicate]
  rcases h with ⟨rfl, rfl⟩ | ⟨rfl, rfl⟩ <;> simp only [ht]

theorem predicateReads_word {word : Keyword} {f : Filter}
    (h : (word = .INCLUDE ∧ f = .everything) ∨ (word = .EXCLUDE ∧ f = .nothing)) :
    PredicateReads scope 0 [.keyword word] f := by
  intro b u rest hu _
  obtain ⟨t, u, rfl, ht, hNil⟩ := exists_of_map_cons hu
  obtain rfl := List.map_eq_nil_iff.1 hNil
  exact .of_eq (parseNot_word rest ht h)

theorem predicateReads_ids {v : List TokenKind} {vs : List Value}
    (h : Listing d v (vs.map Expression.literal)) :
    PredicateReads scope d (.keyword .IN :: .opening :: (v ++ [.closing])) (.ids vs) := by
  intro b u rest hu _
  obtain ⟨t, u, rfl, ht, hu⟩ := exists_of_map_cons hu
  obtain ⟨opened, inner, closing, rfl, hOpened, hInner, hClosing⟩ := exists_of_map_enclosed hu
  have hNot : ¬ t.isKeyword .NOT := by rw [Token.isKeyword_iff, ht]; simp
  rw [List.cons_append, enclosed_append, outcome_parseNot]
  simp only [if_neg hNot]
  rw [outcome_parsePredicate]
  simp only [ht]
  exact ((parseIds_reads h hOpened hClosing rest hInner).bind _).trans_eq rfl

theorem predicateReads_call {name : String} {op : SpatialOp} {v : List TokenKind}
    {es : List Expression} {f : Filter} (hName : SpatialOp.ofName? name = some op)
    (h : Listing d v es)
    (hFilter : ∀ (t : Token) items, items.map Prod.snd = es → spatialFilter op t items = .ok f) :
    PredicateReads scope d (.name name :: .opening :: (v ++ [.closing])) f := by
  intro b u rest hu _
  obtain ⟨t, u, rfl, ht, hu⟩ := exists_of_map_cons hu
  obtain ⟨opened, inner, closing, rfl, hOpened, hInner, hClosing⟩ := exists_of_map_enclosed hu
  rw [List.cons_append, enclosed_append]
  exact parseNot_call hName h hFilter ht hOpened hClosing rest hInner

/-- A predicate is an expression and a condition on it. -/
theorem predicateReads_of_condition {v w : List TokenKind} {f : Filter}
    (h : Arithmetic .sum d v e)
    (hSettled : ∀ u rest, u.map Token.kind = w → Settled (u ++ rest))
    (hCondition : ∀ b start u rest, u.map Token.kind = w → Ending [.AND, .OR] rest →
      Affords scope b d' (parseCondition scope b e start (u ++ rest)).outcome
        (.ok (.filter f, rest))) :
    PredicateReads scope (max d d') (v ++ w) f := by
  intro b u rest hu hRest
  obtain ⟨u, u', rfl, hu, hu'⟩ := exists_of_map_append hu
  obtain ⟨start, hStart⟩ := parseNot_reads scope b h hu (hSettled u' rest hu')
  rw [List.append_assoc]
  exact hStart.trans (hCondition b start u' rest hu' hRest)

theorem predicateReads_comparison {v w : List TokenKind} {left right : Expression} (op : CompareOp)
    (hLeft : Arithmetic .sum d v left) (hRight : Arithmetic .sum d' w right) :
    PredicateReads scope (max d d') (v ++ .compare op :: w) (.comparison op left right) := by
  refine predicateReads_of_condition hLeft ?_ ?_
  · intro u rest hu
    obtain ⟨t, u, rfl, ht, -⟩ := exists_of_map_cons hu
    exact settled_compare ht _
  · intro b start u rest hu hRest
    obtain ⟨t, u, rfl, ht, hu⟩ := exists_of_map_cons hu
    rw [List.cons_append, outcome_parseCondition]
    simp only [ht]
    exact ((parseSum_reads scope b hRight hu hRest.settled).bind _).trans_eq rfl

/-- The word of a test, with or without NOT before it, and what comes after it. -/
theorem exists_of_map_turned {negated : Bool} {word : Keyword} {v : List TokenKind}
    {u : List Token} (h : u.map Token.kind = turned negated ++ .keyword word :: v) :
    ∃ t u', t.kind = .keyword word ∧ u'.map Token.kind = v ∧
      ((negated = false ∧ u = t :: u') ∨
        (negated = true ∧ ∃ t', t'.kind = .keyword .NOT ∧ u = t' :: t :: u')) := by
  cases negated with
  | false =>
    obtain ⟨t, u, rfl, ht, hv⟩ := exists_of_map_cons h
    exact ⟨t, u, ht, hv, .inl ⟨rfl, rfl⟩⟩
  | true =>
    obtain ⟨t', u, rfl, ht', hu⟩ := exists_of_map_cons h
    obtain ⟨t, u, rfl, ht, hv⟩ := exists_of_map_cons hu
    exact ⟨t, u, ht, hv, .inr ⟨rfl, t', ht', rfl⟩⟩

theorem settled_turned (negated : Bool) {word : Keyword} {v : List TokenKind} {u : List Token}
    (h : u.map Token.kind = turned negated ++ .keyword word :: v) (rest : List Token) :
    Settled (u ++ rest) := by
  obtain ⟨t, u, ht, -, ⟨-, rfl⟩ | ⟨-, t', ht', rfl⟩⟩ := exists_of_map_turned h
  · exact settled_keyword ht _
  · exact settled_keyword ht' _

/-- The test for a list goes on with the list, whether or not NOT comes before its word. -/
theorem parseCondition_member (scope : Scope) {negated : Bool} {v : List TokenKind}
    {u : List Token} (h : u.map Token.kind = turned negated ++ .keyword .IN :: v) :
    ∃ u', u'.map Token.kind = v ∧ ∀ b e start rest,
      (parseCondition scope b e start (u ++ rest)).outcome = (do
        let (f, rest) ← (parseMembership scope b e negated (u' ++ rest)).outcome
        .ok (.filter f, rest)) := by
  obtain ⟨t, u, ht, hu, ⟨rfl, rfl⟩ | ⟨rfl, t', ht', rfl⟩⟩ := exists_of_map_turned h
  · refine ⟨u, hu, ?_⟩
    intro b e start rest
    rw [List.cons_append, outcome_parseCondition]
    simp only [ht]
  · refine ⟨u, hu, ?_⟩
    intro b e start rest
    rw [List.cons_append, List.cons_append, outcome_parseCondition]
    simp only [ht, ht']

/-- The test for a range goes on with the range, whether or not NOT comes before its word. -/
theorem parseCondition_range (scope : Scope) {negated : Bool} {v : List TokenKind}
    {u : List Token} (h : u.map Token.kind = turned negated ++ .keyword .BETWEEN :: v) :
    ∃ u', u'.map Token.kind = v ∧ ∀ b e start rest,
      (parseCondition scope b e start (u ++ rest)).outcome = (do
        let (f, rest) ← (parseRange scope b e negated (u' ++ rest)).outcome
        .ok (.filter f, rest)) := by
  obtain ⟨t, u, ht, hu, ⟨rfl, rfl⟩ | ⟨rfl, t', ht', rfl⟩⟩ := exists_of_map_turned h
  · refine ⟨u, hu, ?_⟩
    intro b e start rest
    rw [List.cons_append, outcome_parseCondition]
    simp only [ht]
  · refine ⟨u, hu, ?_⟩
    intro b e start rest
    rw [List.cons_append, List.cons_append, outcome_parseCondition]
    simp only [ht, ht']

theorem predicateReads_membership {v w : List TokenKind} {es : List Expression} (negated : Bool)
    (h : Arithmetic .sum d v e) (hList : Listing d' w es) :
    PredicateReads scope (max d d')
      (v ++ (turned negated ++ .keyword .IN :: .opening :: (w ++ [.closing])))
      (.oneOf e es negated) := by
  refine predicateReads_of_condition h (fun u rest hu => settled_turned negated hu rest) ?_
  intro b start u rest hu _
  obtain ⟨u, hu, hCondition⟩ := parseCondition_member scope hu
  obtain ⟨opened, inner, closing, rfl, hOpened, hInner, hClosing⟩ := exists_of_map_enclosed hu
  rw [hCondition, enclosed_append]
  exact ((parseMembership_reads hList hOpened hClosing e negated rest hInner).bind _).trans_eq rfl

theorem parsePattern_reads {t : Token} {pattern : String} {p : LikePattern} (e : Expression)
    (negated : Bool) (rest : List Token) (ht : t.kind = .text pattern)
    (h : LikePattern.compile pattern false = .ok p) :
    (parsePattern scope e negated (t :: rest)).outcome = .ok (.like e p negated, rest) := by
  rw [parsePattern]
  split
  · next pattern' hKind =>
    rw [ht] at hKind
    obtain rfl := TokenKind.text.inj hKind
    simp only [Filter.matching, h, Except.map, outcome_ok]
  · next hKind => exact absurd ht (hKind pattern)

theorem predicateReads_like {v : List TokenKind} {pattern : String} {p : LikePattern}
    (negated : Bool) (h : Arithmetic .sum d v e)
    (hPattern : LikePattern.compile pattern false = .ok p) :
    PredicateReads scope d (v ++ (turned negated ++ [.keyword .LIKE, .text pattern]))
      (.like e p negated) := by
  have hReads : PredicateReads scope (max d 0)
      (v ++ (turned negated ++ [.keyword .LIKE, .text pattern])) (.like e p negated) := by
    refine predicateReads_of_condition h (fun u rest hu => settled_turned negated hu rest) ?_
    intro b start u rest hu _
    obtain ⟨t, u, ht, hu, hTokens⟩ := exists_of_map_turned hu
    obtain ⟨t'', u, rfl, ht'', hNil⟩ := exists_of_map_cons hu
    obtain rfl := List.map_eq_nil_iff.1 hNil
    refine .of_eq ?_
    rcases hTokens with ⟨rfl, rfl⟩ | ⟨rfl, t', ht', rfl⟩
    · rw [List.cons_append, List.cons_append, List.nil_append, outcome_parseCondition]
      simp only [ht, parsePattern_reads e false rest ht'' hPattern, ok_bind]
    · rw [List.cons_append, List.cons_append, List.cons_append, List.nil_append,
        outcome_parseCondition]
      simp only [ht, ht', parsePattern_reads e true rest ht'' hPattern, ok_bind]
  rwa [Nat.max_zero] at hReads

theorem parseRange_reads {d₁ d₂ : Nat} {v w : List TokenKind} {low high : Expression}
    (e : Expression) (negated : Bool) (hLow : Arithmetic .sum d₁ v low)
    (hHigh : Arithmetic .sum d₂ w high) {u rest : List Token}
    (hu : u.map Token.kind = v ++ .keyword .AND :: w) (hRest : Settled rest) :
    Affords scope b (max d₁ d₂) (parseRange scope b e negated (u ++ rest)).outcome
      (.ok (if negated then Filter.notBetween e low high else Filter.between e low high,
        rest)) := by
  obtain ⟨u, t, u', rfl, hu, ht, hu'⟩ := exists_of_map_join hu
  rw [List.append_assoc, List.cons_append, outcome_parseRange]
  refine ((parseSum_reads scope b hLow hu (settled_keyword ht _)).bind _).trans ?_
  have hWord : (expect scope (·.isKeyword .AND) .andWord (t :: (u' ++ rest))).outcome
      = .ok (t, u' ++ rest) := expect_eq_ok.2 ⟨rfl, Token.isKeyword_iff.2 ht⟩
  simp only [ok_bind, hWord]
  exact ((parseSum_reads scope b hHigh hu' hRest).bind _).trans_eq rfl

theorem predicateReads_range {d₁ d₂ : Nat} {u v w : List TokenKind} {low high : Expression}
    (negated : Bool) (h : Arithmetic .sum d u e) (hLow : Arithmetic .sum d₁ v low)
    (hHigh : Arithmetic .sum d₂ w high) :
    PredicateReads scope (max d (max d₁ d₂))
      (u ++ (turned negated ++ .keyword .BETWEEN :: (v ++ .keyword .AND :: w)))
      (if negated then Filter.notBetween e low high else Filter.between e low high) := by
  refine predicateReads_of_condition h (fun u rest hu => settled_turned negated hu rest) ?_
  intro b start u rest hu hRest
  obtain ⟨u, hu, hCondition⟩ := parseCondition_range scope hu
  rw [hCondition]
  exact ((parseRange_reads e negated hLow hHigh hu hRest.settled).bind _).trans_eq rfl

theorem parseNullTest_reads {name : String} {start : Nat} (negated : Bool) {u : List Token}
    (hu : u.map Token.kind = turned negated ++ [.keyword .NULL]) (rest : List Token) :
    (parseNullTest scope (.attr name) start (u ++ rest)).outcome
      = .ok (.isNull name negated, rest) := by
  obtain ⟨t, u, ht, hNil, hTokens⟩ := exists_of_map_turned hu
  obtain rfl := List.map_eq_nil_iff.1 hNil
  have hNull : (expect scope (·.isKeyword .NULL) .nullWord (t :: rest)).outcome = .ok (t, rest) :=
    expect_eq_ok.2 ⟨rfl, Token.isKeyword_iff.2 ht⟩
  rw [outcome_parseNullTest]
  rcases hTokens with ⟨rfl, rfl⟩ | ⟨rfl, t', ht', rfl⟩
  -- Without NOT the first token is NULL, which is a different word.
  · have hTurned : ([t] ++ rest).head?.any (·.isKeyword .NOT) = false := by
      rw [Bool.eq_false_iff, ne_eq, head_isKeyword_iff]
      rintro ⟨t', after, hTokens, ht'⟩
      rw [← (List.cons.inj hTokens).1, ht] at ht'
      exact absurd ht' (by simp)
    rw [hTurned]
    exact bind_of_eq_ok hNull _
  · have hTurned : ([t', t] ++ rest).head?.any (·.isKeyword .NOT) = true :=
      head_isKeyword_iff.2 ⟨t', t :: rest, rfl, ht'⟩
    rw [hTurned]
    exact bind_of_eq_ok hNull _

theorem predicateReads_nullTest {v : List TokenKind} {name : String} (negated : Bool)
    (h : Arithmetic .sum d v (.attr name)) :
    PredicateReads scope d (v ++ .keyword .IS :: (turned negated ++ [.keyword .NULL]))
      (.isNull name negated) := by
  have hReads : PredicateReads scope (max d 0)
      (v ++ .keyword .IS :: (turned negated ++ [.keyword .NULL])) (.isNull name negated) := by
    refine predicateReads_of_condition h ?_ ?_
    · intro u rest hu
      exact settled_turned false hu rest
    · intro b start u rest hu _
      obtain ⟨t, u, rfl, ht, hu⟩ := exists_of_map_cons hu
      rw [List.cons_append, outcome_parseCondition]
      simp only [ht, parseNullTest_reads negated hu rest, ok_bind]
      exact .of_eq rfl
  rwa [Nat.max_zero] at hReads

/-! ## Sentences -/

/-- The parser reads every derivation of a filter, by induction on the derivation. -/
theorem sentenceReads (scope : Scope) {l : Level} {m : l.Meaning} (h : Sentence l d ks m) :
    SentenceReads scope l d ks m := by
  induction h with
  | disjunction _ ih => exact AlternativesRead.first ih
  | alternative _ ih => exact ConjunctionReads.alternative ih
  | alternatives _ _ ihFirst ihOthers => exact ConjunctionReads.alternatives ihFirst ihOthers
  | conjunction _ ih => exact ConjunctsRead.first ih
  | conjunct _ ih => exact PredicateReads.conjunct ih
  | conjuncts _ _ ihFirst ihOthers => exact PredicateReads.conjuncts ihFirst ihOthers
  | not _ ih => exact PredicateReads.not ih
  | predicate _ ih => exact ih
  | everything => exact predicateReads_word (.inl ⟨rfl, rfl⟩)
  | nothing => exact predicateReads_word (.inr ⟨rfl, rfl⟩)
  | ids h => exact predicateReads_ids h
  | spatial hName h => exact predicateReads_call hName h fun _ _ => spatialFilter_two
  | box hName h => exact predicateReads_call hName h fun _ _ => spatialFilter_box
  | group _ ih => exact DisjunctionReads.group ih
  | comparison op hLeft hRight => exact predicateReads_comparison op hLeft hRight
  | membership negated h hList => exact predicateReads_membership negated h hList
  | like negated h hPattern => exact predicateReads_like negated h hPattern
  | between h hLow hHigh => exact predicateReads_range false h hLow hHigh
  | notBetween h hLow hHigh => exact predicateReads_range true h hLow hHigh
  | nullTest negated h => exact predicateReads_nullTest negated h

end GeoFilter.Cql
