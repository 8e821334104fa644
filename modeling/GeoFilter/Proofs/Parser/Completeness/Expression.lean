import GeoFilter.Proofs.Parser.Budget
import GeoFilter.Proofs.Parser.Soundness.Filter

set_option autoImplicit false

/-! # The parser reads every expression of the grammar

Tokens that derive an expression are read as that expression, whatever follows, if the budget pays
for their nesting; a smaller budget ends at the limit. An expression can also stand at the start of
a predicate, where `parseNot` reads it, and there a parenthesis is opened before it is known to
hold an expression. So each derivation carries one fact for each of the two places. -/

namespace GeoFilter.Cql

open Grammar

variable {α β : Type} {scope : Scope} {b d d' : Nat}

/-! ## The tokens of a derivation -/

theorem exists_of_map_cons {t : TokenKind} {v : List TokenKind} {u : List Token}
    (h : u.map Token.kind = t :: v) :
    ∃ t' u', u = t' :: u' ∧ t'.kind = t ∧ u'.map Token.kind = v := by
  obtain ⟨t', u', rfl, ht, hu⟩ := List.map_eq_cons_iff.1 h
  exact ⟨t', u', rfl, ht, hu⟩

theorem exists_of_map_append {v w : List TokenKind} {u : List Token}
    (h : u.map Token.kind = v ++ w) :
    ∃ u₁ u₂, u = u₁ ++ u₂ ∧ u₁.map Token.kind = v ∧ u₂.map Token.kind = w :=
  List.map_eq_append_iff.1 h

/-- Two parts of a derivation with a token between them. -/
theorem exists_of_map_join {t : TokenKind} {v w : List TokenKind} {u : List Token}
    (h : u.map Token.kind = v ++ t :: w) :
    ∃ u₁ t' u₂, u = u₁ ++ t' :: u₂ ∧ u₁.map Token.kind = v ∧ t'.kind = t ∧
      u₂.map Token.kind = w := by
  obtain ⟨u₁, u₂, rfl, hv, hw⟩ := exists_of_map_append h
  obtain ⟨t', u₂, rfl, ht, hw⟩ := exists_of_map_cons hw
  exact ⟨u₁, t', u₂, rfl, hv, ht, hw⟩

/-- A part of a derivation in parentheses. -/
theorem exists_of_map_enclosed {v : List TokenKind} {u : List Token}
    (h : u.map Token.kind = .opening :: (v ++ [.closing])) :
    ∃ opened inner closing, u = opened :: (inner ++ [closing]) ∧ opened.kind = .opening ∧
      inner.map Token.kind = v ∧ closing.kind = .closing := by
  obtain ⟨opened, u, rfl, hOpened, hu⟩ := exists_of_map_cons h
  obtain ⟨inner, closing, more, rfl, hInner, hClosing, hMore⟩ := exists_of_map_join hu
  obtain rfl := List.map_eq_nil_iff.1 hMore
  exact ⟨opened, inner, closing, rfl, hOpened, hInner, hClosing⟩

theorem arithmetic_starts {binding : Binding} {ks : List TokenKind} {e : Expression}
    (h : Arithmetic binding d ks e) : ∃ k v, ks = k :: v ∧ k ≠ .closing := by
  induction h with
  | operand _ ih | factor _ ih | term _ ih => exact ih
  | factors _ _ _ ih _ | terms _ _ _ ih _ =>
    obtain ⟨k, v, rfl, hk⟩ := ih
    exact ⟨k, _, rfl, hk⟩
  | _ => exact ⟨_, _, rfl, by simp⟩

theorem listing_starts {ks : List TokenKind} {es : List Expression} (h : Listing d ks es) :
    ∃ k v, ks = k :: v ∧ k ≠ .closing := by
  cases h with
  | one h => exact arithmetic_starts h
  | more h _ =>
    obtain ⟨k, v, rfl, hk⟩ := arithmetic_starts h
    exact ⟨k, _, rfl, hk⟩

/-! ## What follows an expression -/

/-- The tokens do not start with an opening parenthesis. -/
def Apart (rest : List Token) : Prop := ∀ t ∈ rest.head?, t.kind ≠ .opening

/-- The tokens do not go on with a product or a call. -/
def Loose (rest : List Token) : Prop :=
  ∀ t ∈ rest.head?, t.kind ≠ .opening ∧ ∀ op, t.kind = .arithmetic op → bindsTightly op = false

/-- The tokens do not go on with a sum or a call. -/
def Settled (rest : List Token) : Prop :=
  ∀ t ∈ rest.head?, t.kind ≠ .opening ∧ ∀ op, t.kind ≠ .arithmetic op

theorem Loose.apart {rest : List Token} (h : Loose rest) : Apart rest := fun t ht => (h t ht).1

theorem Settled.loose {rest : List Token} (h : Settled rest) : Loose rest :=
  fun t ht => ⟨(h t ht).1, fun op hop => absurd hop ((h t ht).2 op)⟩

theorem apart_cons {t : Token} {rest : List Token} (h : t.kind ≠ .opening) :
    Apart (t :: rest) := by
  intro t' ht
  obtain rfl := Option.some.inj ht
  exact h

theorem loose_cons {t : Token} {rest : List Token} {op : ArithmeticOp}
    (h : t.kind = .arithmetic op) (hOp : bindsTightly op = false) : Loose (t :: rest) := by
  intro t' ht
  obtain rfl := Option.some.inj ht
  refine ⟨by simp [h], ?_⟩
  intro op' hop
  rw [h] at hop
  rw [← TokenKind.arithmetic.inj hop, hOp]

theorem settled_cons {t : Token} {rest : List Token} (h : t.kind ≠ .opening)
    (hOp : ∀ op, t.kind ≠ .arithmetic op) : Settled (t :: rest) := by
  intro t' ht
  obtain rfl := Option.some.inj ht
  exact ⟨h, hOp⟩

theorem parseFactors_of_loose {rest : List Token} (h : Loose rest) (e : Expression) :
    (parseFactors scope b e rest).outcome = .ok (e, rest) := by
  rw [outcome_parseFactors]
  cases rest with
  | nil => rfl
  | cons t rest =>
    dsimp only
    split
    · next op hop => rw [(h t rfl).2 op hop, if_neg Bool.false_ne_true]
    · rfl

theorem parseTerms_of_settled {rest : List Token} (h : Settled rest) (e : Expression) :
    (parseTerms scope b e rest).outcome = .ok (e, rest) := by
  rw [outcome_parseTerms]
  cases rest with
  | nil => rfl
  | cons t rest =>
    dsimp only
    split
    · next op hop => exact absurd hop ((h t rfl).2 op)
    · rfl

/-! ## Expressions at the start of a predicate -/

/-- The rest of a predicate after the first operand of its expression. -/
def afterOperand (scope : Scope) (b start : Nat) (e : Expression) (rest : List Token) :
    Except SyntaxError (Operand × List Token) := do
  let (product, rest) ← (parseFactors scope b e rest).outcome
  let (sum, rest) ← (parseTerms scope b product rest).outcome
  (parseCondition scope b sum start rest).outcome

/-- The rest of a predicate after a parenthesis at its start, by what the parenthesis holds. -/
def afterGroup (scope : Scope) (b start : Nat) (rest : List Token) :
    Operand → Except SyntaxError (Operand × List Token)
  | .filter f =>
    if rest.head?.any Token.continuesExpression then .error (unexpected scope .connective rest)
    else .ok (.filter f, rest)
  | .expression e => afterOperand scope b start e rest

theorem outcome_parsePredicate_group (scope : Scope) (b : Nat) {t : Token} (ts : List Token)
    (h : t.kind = .opening) :
    (parsePredicate scope (b + 1) t ts).outcome = (do
      let (group, rest) ← (parseOr scope b ts).outcome
      let (_, rest) ← (expectClosing scope t rest).outcome
      afterGroup scope (b + 1) t.offset rest group) := by
  rw [outcome_parsePredicate]
  simp only [h]
  rfl

/-- The tokens start a predicate that no word and no parenthesis announces. -/
def Plain : List Token → Prop
  | [] => False
  | t :: rest => spatialCall? t rest = none ∧ t.kind ≠ .opening ∧
      ∀ word, t.kind = .keyword word → word = .TRUE ∨ word = .FALSE ∨ word = .NULL

theorem parseNot_of_plain {ts : List Token} (h : Plain ts) :
    ∃ start, (parseNot scope b ts).outcome = (do
      let (e, rest) ← (parseOperand scope b ts).outcome
      afterOperand scope b start e rest) := by
  cases ts with
  | nil => exact absurd h id
  | cons t rest =>
    obtain ⟨hCall, hOpening, hWord⟩ := h
    refine ⟨t.offset, ?_⟩
    have hNot : t.isKeyword .NOT = false := by
      rw [Bool.eq_false_iff]
      intro hNot
      simpa using hWord .NOT (Token.isKeyword_iff.1 hNot)
    -- No branch for a word, a call or a parenthesis applies, so a comparison is read.
    rw [outcome_parseNot]
    simp only [hNot, Bool.false_eq_true, if_false]
    rw [outcome_parsePredicate]
    split
    · next hKind => simpa using hWord _ hKind
    · next hKind => simpa using hWord _ hKind
    · next hKind => simpa using hWord _ hKind
    · next hKind => exact absurd hKind hOpening
    · rw [hCall]
      simp only [outcome_parseComparison, outcome_parseSum, afterOperand, bind_assoc]

/-- A name that is not followed by a parenthesis calls nothing. -/
theorem spatialCall_of_apart {t : Token} {rest : List Token} (h : Apart rest) :
    spatialCall? t rest = none := by
  unfold spatialCall?
  split
  · next opened after hKind =>
    have hOpened : ¬ opened.isOpening := fun ho => h opened rfl (Token.isOpening_iff.1 ho)
    rw [if_neg hOpened]
  · rfl

theorem sameLetters_trans {a b c : String} (h : Text.sameLetters a b) (h' : Text.sameLetters b c) :
    Text.sameLetters a c := by
  unfold Text.sameLetters at *
  rw [beq_iff_eq] at *
  exact h.trans h'

/-- The function for the default geometry is no predicate. -/
theorem ofName_of_geometry {name : String} (h : Text.sameLetters name "geometry") :
    SpatialOp.ofName? name = none := by
  unfold SpatialOp.ofName?
  rw [List.find?_eq_none]
  intro op hOp hName
  have hGeometry : ∀ op ∈ SpatialOp.all, ¬ Text.sameLetters op.name "geometry" := by decide
  exact hGeometry op hOp (sameLetters_trans hName h)

/-- At the start of a predicate a call for the default geometry is not taken for a predicate. -/
theorem plain_of_geometry {name : String} {t : Token} (h : Text.sameLetters name "geometry")
    (ht : t.kind = .name name) (rest : List Token) : Plain (t :: rest) := by
  refine ⟨?_, by simp [ht], by simp [ht]⟩
  cases rest <;> simp [spatialCall?, ht, ofName_of_geometry h]

/-! ## Derivations of expressions -/

/-- An operand is read as itself where an expression is wanted, and as the first operand of one
    where a predicate is wanted. -/
structure OperandReads (scope : Scope) (d : Nat) (ks : List TokenKind) (e : Expression) :
    Prop where
  inside : ∀ b u rest, u.map Token.kind = ks → Apart rest →
    Affords scope b d (parseOperand scope b (u ++ rest)).outcome (.ok (e, rest))
  atStart : ∀ b u rest, u.map Token.kind = ks → Apart rest → ∃ start,
    Affords scope b d (parseNot scope b (u ++ rest)).outcome (afterOperand scope b start e rest)

/-- A product is read up to its further factors. -/
structure ProductReads (scope : Scope) (d : Nat) (ks : List TokenKind) (e : Expression) :
    Prop where
  inside : ∀ b u rest, u.map Token.kind = ks → Apart rest →
    Affords scope b d (do
      let (operand, rest) ← (parseOperand scope b (u ++ rest)).outcome
      (parseFactors scope b operand rest).outcome) (parseFactors scope b e rest).outcome
  atStart : ∀ b u rest, u.map Token.kind = ks → Apart rest → ∃ start,
    Affords scope b d (parseNot scope b (u ++ rest)).outcome (afterOperand scope b start e rest)

/-- A sum is read up to its further terms. -/
structure SumReads (scope : Scope) (d : Nat) (ks : List TokenKind) (e : Expression) : Prop where
  inside : ∀ b u rest, u.map Token.kind = ks → Loose rest →
    Affords scope b d (parseSum scope b (u ++ rest)).outcome (parseTerms scope b e rest).outcome
  atStart : ∀ b u rest, u.map Token.kind = ks → Loose rest → ∃ start,
    Affords scope b d (parseNot scope b (u ++ rest)).outcome (do
      let (sum, rest) ← (parseTerms scope b e rest).outcome
      (parseCondition scope b sum start rest).outcome)

/-- What the parser does with tokens that derive an expression. -/
def ArithmeticReads (scope : Scope) : Binding → Nat → List TokenKind → Expression → Prop
  | .sum => SumReads scope
  | .product => ProductReads scope
  | .unary | .primary => OperandReads scope

/-- An operand that nothing announces is read at the start of a predicate as it is elsewhere. -/
theorem OperandReads.of_plain {ks : List TokenKind} {e : Expression}
    (hPlain : ∀ u rest, u.map Token.kind = ks → Apart rest → Plain (u ++ rest))
    (h : ∀ b u rest, u.map Token.kind = ks → Apart rest →
      Affords scope b d (parseOperand scope b (u ++ rest)).outcome (.ok (e, rest))) :
    OperandReads scope d ks e := by
  refine ⟨h, ?_⟩
  intro b u rest hu hRest
  obtain ⟨start, hStart⟩ := parseNot_of_plain (hPlain u rest hu hRest)
  exact ⟨start, .eq_trans hStart ((h b u rest hu hRest).bind _)⟩

/-- An operand of a single token. -/
theorem OperandReads.of_token {k : TokenKind} {e : Expression} (hOpening : k ≠ .opening)
    (hWord : ∀ word, k = .keyword word → word = .TRUE ∨ word = .FALSE ∨ word = .NULL)
    (h : ∀ b t rest, t.kind = k → Apart rest →
      (parseOperand scope b (t :: rest)).outcome = .ok (e, rest)) :
    OperandReads scope 0 [k] e := by
  refine .of_plain ?_ ?_
  · intro u rest hu hRest
    obtain ⟨t, u, rfl, rfl, hNil⟩ := exists_of_map_cons hu
    obtain rfl := List.map_eq_nil_iff.1 hNil
    exact ⟨spatialCall_of_apart hRest, hOpening, hWord⟩
  · intro b u rest hu hRest
    obtain ⟨t, u, rfl, ht, hu⟩ := exists_of_map_cons hu
    obtain rfl := List.map_eq_nil_iff.1 hu
    exact .of_eq (h b t rest ht hRest)

theorem operandReads_name (name : String) : OperandReads scope 0 [.name name] (.attr name) := by
  refine .of_token (by simp) (by simp) ?_
  intro b t rest ht hRest
  simp only [outcome_parseOperand, outcome_parsePrimary, ht]
  cases rest with
  | nil => rfl
  | cons opened after =>
    have hOpened : ¬ opened.isOpening := fun ho => hRest opened rfl (Token.isOpening_iff.1 ho)
    simp only [if_neg hOpened]

theorem operandReads_geometry {source : String} {g : Geometry}
    (h : Geometry.ofWkt (Text.upper source) = .ok g) :
    OperandReads scope 0 [.geometry source] (.literal (.geometry g)) := by
  refine .of_token (by simp) (by simp) ?_
  intro b t rest ht hRest
  simp only [outcome_parseOperand, outcome_parsePrimary, ht, geometryLiteral, h]
  rfl

theorem operandReads_defaultGeometry {name : String} (h : Text.sameLetters name "geometry") :
    OperandReads scope 0 [.name name, .opening, .closing] .defaultGeometry := by
  have hTokens : ∀ u : List Token, u.map Token.kind = [.name name, .opening, .closing] →
      ∃ t opened closing, u = [t, opened, closing] ∧ t.kind = .name name ∧
        opened.kind = .opening ∧ closing.kind = .closing := by
    intro u hu
    obtain ⟨t, u, rfl, ht, hu⟩ := exists_of_map_cons hu
    obtain ⟨opened, inner, closing, rfl, hOpened, hInner, hClosing⟩ :=
      exists_of_map_enclosed (v := []) hu
    obtain rfl := List.map_eq_nil_iff.1 hInner
    exact ⟨t, opened, closing, rfl, ht, hOpened, hClosing⟩
  refine .of_plain ?_ ?_
  · intro u rest hu hRest
    obtain ⟨t, opened, closing, rfl, ht, hOpened, hClosing⟩ := hTokens u hu
    exact plain_of_geometry h ht _
  · intro b u rest hu hRest
    obtain ⟨t, opened, closing, rfl, ht, hOpened, hClosing⟩ := hTokens u hu
    have hOpening : opened.isOpening := Token.isOpening_iff.2 hOpened
    have hClosed : closing.isClosing := Token.isClosing_iff.2 hClosing
    refine .of_eq ?_
    simp only [List.cons_append, List.nil_append, outcome_parseOperand, outcome_parsePrimary,
      outcome_parseArguments, ht, hOpening, hClosed, h, if_true]
    rfl

theorem parseOr_of_parseAnd {ts rest : List Token} {x : Operand}
    (h : Affords scope b d (parseAnd scope b ts).outcome (.ok (x, rest)))
    (hOr : ¬ rest.head?.any (·.isKeyword .OR)) :
    Affords scope b d (parseOr scope b ts).outcome (.ok (x, rest)) := by
  rw [outcome_parseOr]
  refine (h.bind _).trans_eq ?_
  show (if rest.head?.any (·.isKeyword .OR) then _ else _) = _
  rw [if_neg hOr]

theorem parseAnd_of_parseNot {ts rest : List Token} {x : Operand}
    (h : Affords scope b d (parseNot scope b ts).outcome (.ok (x, rest)))
    (hAnd : ¬ rest.head?.any (·.isKeyword .AND)) :
    Affords scope b d (parseAnd scope b ts).outcome (.ok (x, rest)) := by
  rw [outcome_parseAnd]
  refine (h.bind _).trans_eq ?_
  show (if rest.head?.any (·.isKeyword .AND) then _ else _) = _
  rw [if_neg hAnd]

theorem enclosed_append (opened closing : Token) (inner rest : List Token) :
    opened :: (inner ++ [closing]) ++ rest = opened :: (inner ++ closing :: rest) := by
  rw [List.cons_append, List.append_assoc, List.singleton_append]

/-- A pair of parentheses is read as what it holds. -/
theorem SumReads.group {v : List TokenKind} {e : Expression} (h : SumReads scope d v e) :
    OperandReads scope (d + 1) (.opening :: (v ++ [.closing])) e := by
  constructor
  · intro b u rest hu hRest
    obtain ⟨opened, inner, closing, rfl, hOpened, hInner, hClosing⟩ := exists_of_map_enclosed hu
    have hSettled : Settled (closing :: rest) :=
      settled_cons (by simp [hClosing]) (by simp [hClosing])
    rw [enclosed_append, outcome_parseOperand]
    simp only [hOpened]
    rw [outcome_parsePrimary]
    simp only [hOpened]
    cases b with
    | zero => exact .zero (reachesLimit_tooDeep scope _)
    | succ b =>
      refine (((h.inside b inner _ hInner hSettled.loose).bind _).trans_eq ?_).succ
      rw [parseTerms_of_settled hSettled]
      exact bind_of_eq_ok (expectClosing_eq_ok.2 ⟨rfl, hClosing⟩) _
  · intro b u rest hu hRest
    obtain ⟨opened, inner, closing, rfl, hOpened, hInner, hClosing⟩ := exists_of_map_enclosed hu
    have hSettled : Settled (closing :: rest) :=
      settled_cons (by simp [hClosing]) (by simp [hClosing])
    have hNot : ¬ opened.isKeyword .NOT := by rw [Token.isKeyword_iff, hOpened]; simp
    refine ⟨opened.offset, ?_⟩
    -- Here the parenthesis is opened as that of a filter, and turns out to hold an expression.
    rw [enclosed_append, outcome_parseNot]
    simp only [if_neg hNot]
    rw [outcome_parsePredicate]
    simp only [hOpened]
    cases b with
    | zero => exact .zero (reachesLimit_tooDeep scope _)
    | succ b =>
      obtain ⟨start, hStart⟩ := h.atStart b inner _ hInner hSettled.loose
      have hCondition : (parseCondition scope b e start (closing :: rest)).outcome
          = .ok (.expression e, closing :: rest) := by
        rw [outcome_parseCondition]
        simp only [hClosing]
      rw [parseTerms_of_settled hSettled] at hStart
      -- Neither AND nor OR follows inside, so the expression is handed out as it is.
      have hWord : ∀ word, ¬ (closing :: rest).head?.any (·.isKeyword word) := by
        intro word
        rw [head_isKeyword_iff]
        rintro ⟨t, after, hTokens, ht⟩
        rw [← (List.cons.inj hTokens).1, hClosing] at ht
        exact absurd ht (by simp)
      have hAnd := parseAnd_of_parseNot (hStart.trans_eq hCondition) (hWord .AND)
      have hOr := parseOr_of_parseAnd hAnd (hWord .OR)
      refine ((hOr.bind _).trans_eq ?_).succ
      exact bind_of_eq_ok (expectClosing_eq_ok.2 ⟨rfl, hClosing⟩) _

theorem negated_of_ne {e : Expression} (h : ∀ x, e ≠ .literal (.number x)) :
    negated e = .arithmetic .mul (.literal (.number (-1))) e := by
  unfold negated
  split
  · next x => exact absurd rfl (h x)
  · rfl

theorem OperandReads.minus {v : List TokenKind} {e : Expression} (h : OperandReads scope d v e) :
    OperandReads scope (d + 1) (.arithmetic .sub :: v) (negated e) := by
  refine .of_plain ?_ ?_
  · intro u rest hu hRest
    obtain ⟨t, u, rfl, ht, hu⟩ := exists_of_map_cons hu
    exact ⟨by simp [spatialCall?, ht], by simp [ht], by simp [ht]⟩
  · intro b u rest hu hRest
    obtain ⟨t, u, rfl, ht, hu⟩ := exists_of_map_cons hu
    rw [List.cons_append, outcome_parseOperand]
    simp only [ht]
    cases b with
    | zero => exact .zero (reachesLimit_tooDeep scope _)
    | succ b => exact ((h.inside b u rest hu hRest).bind _).succ

theorem OperandReads.factor {v : List TokenKind} {e : Expression} (h : OperandReads scope d v e) :
    ProductReads scope d v e :=
  ⟨fun b u rest hu hRest => (h.inside b u rest hu hRest).bind _, h.atStart⟩

theorem parseFactors_of_tight {op : ArithmeticOp} {t : Token} {rest : List Token} {e : Expression}
    (ht : t.kind = .arithmetic op) (hOp : bindsTightly op) :
    (parseFactors scope b e (t :: rest)).outcome = (do
      let (right, rest) ← (parseOperand scope b rest).outcome
      (parseFactors scope b (.arithmetic op e right) rest).outcome) := by
  rw [outcome_parseFactors]
  simp only [ht, hOp, if_true]

theorem parseTerms_of_loose {op : ArithmeticOp} {t : Token} {rest : List Token} {e : Expression}
    (ht : t.kind = .arithmetic op) (hOp : bindsTightly op = false) :
    (parseTerms scope b e (t :: rest)).outcome = (do
      let (operand, rest) ← (parseOperand scope b rest).outcome
      let (right, rest) ← (parseFactors scope b operand rest).outcome
      (parseTerms scope b (.arithmetic op e right) rest).outcome) := by
  rw [outcome_parseTerms]
  simp only [ht, hOp, Bool.false_eq_true, if_false]

theorem ProductReads.factors {v w : List TokenKind} {left right : Expression} {op : ArithmeticOp}
    (hLeft : ProductReads scope d v left) (hOp : bindsTightly op)
    (hRight : OperandReads scope d' w right) :
    ProductReads scope (max d d') (v ++ .arithmetic op :: w) (.arithmetic op left right) := by
  constructor
  · intro b u rest hu hRest
    obtain ⟨u, t, u', rfl, hu, ht, hu'⟩ := exists_of_map_join hu
    rw [List.append_assoc, List.cons_append]
    refine (hLeft.inside b u _ hu (apart_cons (by simp [ht]))).trans ?_
    rw [parseFactors_of_tight ht hOp]
    exact (hRight.inside b u' rest hu' hRest).bind _
  · intro b u rest hu hRest
    obtain ⟨u, t, u', rfl, hu, ht, hu'⟩ := exists_of_map_join hu
    rw [List.append_assoc, List.cons_append]
    obtain ⟨start, hStart⟩ := hLeft.atStart b u (t :: (u' ++ rest)) hu (apart_cons (by simp [ht]))
    refine ⟨start, hStart.trans ?_⟩
    rw [afterOperand, parseFactors_of_tight ht hOp]
    exact ((hRight.inside b u' rest hu' hRest).bind _).bind _

theorem ProductReads.term {v : List TokenKind} {e : Expression} (h : ProductReads scope d v e) :
    SumReads scope d v e := by
  constructor
  · intro b u rest hu hRest
    -- What follows a product is loose, so the product takes no further factor.
    have hTerms := (h.inside b u rest hu hRest.apart).bind
      fun (product, rest) => (parseTerms scope b product rest).outcome
    rw [parseFactors_of_loose hRest] at hTerms
    rw [outcome_parseSum]
    simpa only [bind_assoc, ok_bind] using hTerms
  · intro b u rest hu hRest
    obtain ⟨start, hStart⟩ := h.atStart b u rest hu hRest.apart
    rw [afterOperand, parseFactors_of_loose hRest] at hStart
    exact ⟨start, hStart⟩

theorem SumReads.terms {v w : List TokenKind} {left right : Expression} {op : ArithmeticOp}
    (hLeft : SumReads scope d v left) (hOp : bindsTightly op = false)
    (hRight : ProductReads scope d' w right) :
    SumReads scope (max d d') (v ++ .arithmetic op :: w) (.arithmetic op left right) := by
  -- Both places go on with the right operand in the same way.
  have hTerms : ∀ b t u' rest, t.kind = .arithmetic op → u'.map Token.kind = w → Loose rest →
      Affords scope b d' (parseTerms scope b left (t :: (u' ++ rest))).outcome
        (parseTerms scope b (.arithmetic op left right) rest).outcome := by
    intro b t u' rest ht hu' hRest
    have hNext := (hRight.inside b u' rest hu' hRest.apart).bind
      fun (right, rest) => (parseTerms scope b (.arithmetic op left right) rest).outcome
    rw [parseFactors_of_loose hRest] at hNext
    rw [parseTerms_of_loose ht hOp]
    simpa only [bind_assoc, ok_bind] using hNext
  constructor
  · intro b u rest hu hRest
    obtain ⟨u, t, u', rfl, hu, ht, hu'⟩ := exists_of_map_join hu
    rw [List.append_assoc, List.cons_append]
    exact (hLeft.inside b u _ hu (loose_cons ht hOp)).trans (hTerms b t u' rest ht hu' hRest)
  · intro b u rest hu hRest
    obtain ⟨u, t, u', rfl, hu, ht, hu'⟩ := exists_of_map_join hu
    rw [List.append_assoc, List.cons_append]
    obtain ⟨start, hStart⟩ := hLeft.atStart b u (t :: (u' ++ rest)) hu (loose_cons ht hOp)
    exact ⟨start, hStart.trans ((hTerms b t u' rest ht hu' hRest).bind _)⟩

/-- The parser reads every derivation of an expression, by induction on the derivation. -/
theorem arithmeticReads (scope : Scope) {binding : Binding} {ks : List TokenKind} {e : Expression}
    (h : Arithmetic binding d ks e) : ArithmeticReads scope binding d ks e := by
  induction h with
  | number | text =>
    refine .of_token (by simp) (by simp) ?_
    intro b t rest ht _
    simp only [outcome_parseOperand, outcome_parsePrimary, ht]
  | true | false | null =>
    refine .of_token (by simp) (by simp) ?_
    intro b t rest ht _
    simp only [outcome_parseOperand, outcome_parsePrimary, ht]
  | quotedName =>
    refine .of_token (by simp) (by simp) ?_
    intro b t rest ht _
    simp only [outcome_parseOperand, outcome_parsePrimary, ht]
  | geometry h => exact operandReads_geometry h
  | name name => exact operandReads_name name
  | defaultGeometry h => exact operandReads_defaultGeometry h
  | group _ ih => exact SumReads.group ih
  | operand _ ih => exact ih
  -- `negated` computes the negative number here, and the product with minus one below.
  | minusNumber _ ih => exact OperandReads.minus ih
  | minus _ hNumber ih =>
    have hMinus := OperandReads.minus ih
    rw [negated_of_ne hNumber] at hMinus
    exact hMinus
  | factor _ ih => exact OperandReads.factor ih
  | factors _ hOp _ ihLeft ihRight =>
    refine ProductReads.factors ihLeft ?_ ihRight
    rcases hOp with rfl | rfl <;> rfl
  | term _ ih => exact ProductReads.term ih
  | terms _ hOp _ ihLeft ihRight =>
    refine SumReads.terms ihLeft ?_ ihRight
    rcases hOp with rfl | rfl <;> rfl

end GeoFilter.Cql
