import GeoFilter.Proofs.Comparison
import GeoFilter.Proofs.Missing
import GeoFilter.Proofs.Printer.Meaning

set_option autoImplicit false

/-! # Null in place of absent literals

An absent literal is written as NULL, so a filter with absent literals has the same text as one
with null literals in their place. Both kinds of missing value fail every comparison, have no text,
no number and no geometry, so the two filters accept the same records; with one exception. A NOT IN
rejects an absent value and accepts a null one, so it matters whether the literal that it looks for
is absent or null. An expression around the literal makes both absent, and a list may hold
either. -/

namespace GeoFilter

open Cql Cql.Grammar

/-! ## Expressions -/

/-- `Nulled e e'`: one absent literal of `e` is null in `e'`. -/
inductive Expression.Nulled : Expression → Expression → Prop where
  | literal : Nulled (.literal .absent) (.literal .null)
  | left {e e' : Expression} (op : ArithmeticOp) (right : Expression) (h : Nulled e e') :
      Nulled (.arithmetic op e right) (.arithmetic op e' right)
  | right {e e' : Expression} (op : ArithmeticOp) (left : Expression) (h : Nulled e e') :
      Nulled (.arithmetic op left e) (.arithmetic op left e')

namespace Expression

variable {e e' : Expression}

theorem cqlChars_arithmetic (op : ArithmeticOp) (left right : Expression) :
    (arithmetic op left right).cqlChars
      = '(' :: (left.cqlChars ++ ' ' :: (op.symbol.toList ++ ' ' :: (right.cqlChars ++ [')']))) :=
  rfl

theorem Nulled.cqlChars (h : Nulled e e') : e'.cqlChars = e.cqlChars := by
  induction h with
  | literal => rfl
  | left op right _ ih => rw [cqlChars_arithmetic, ih, cqlChars_arithmetic]
  | right op left _ ih => rw [cqlChars_arithmetic, ih, cqlChars_arithmetic]

/-- The literal itself changes its value, and no expression around it does. -/
theorem Nulled.literal_or_evaluate (h : Nulled e e') :
    e = .literal .absent ∧ e' = .literal .null ∨
      ∀ record, e'.evaluate record = e.evaluate record := by
  induction h with
  | literal => exact .inl ⟨rfl, rfl⟩
  | left op right _ ih =>
    refine .inr fun record => ?_
    rcases ih with ⟨rfl, rfl⟩ | hSame
    · rfl
    · rw [evaluate, hSame, evaluate]
  | right op left _ ih =>
    refine .inr fun record => ?_
    rcases ih with ⟨rfl, rfl⟩ | hSame
    · simp only [evaluate, ArithmeticOp.apply]
      cases (left.evaluate record).asNumber <;> rfl
    · rw [evaluate, hSame, evaluate]

theorem Nulled.asText (h : Nulled e e') (record : RecordView) :
    (e'.evaluate record).asText = (e.evaluate record).asText := by
  rcases h.literal_or_evaluate with ⟨rfl, rfl⟩ | hSame
  · rfl
  · rw [hSame]

theorem Nulled.evaluateGeometry (h : Nulled e e') (record : RecordView) :
    e'.evaluateGeometry record = e.evaluateGeometry record := by
  rcases h.literal_or_evaluate with ⟨rfl, rfl⟩ | hSame
  · rfl
  · rw [Expression.evaluateGeometry_eq, hSame, Expression.evaluateGeometry_eq]

/-- A value is compared in the same way whichever missing value the literal is. -/
theorem Nulled.holds_left (h : Nulled e e') (op : CompareOp) (record : RecordView) (w : Value) :
    op.holds (e'.evaluate record) w = op.holds (e.evaluate record) w := by
  rcases h.literal_or_evaluate with ⟨rfl, rfl⟩ | hSame
  · exact (Value.holds_of_isMissing (.inl rfl) op).trans
      (Value.holds_of_isMissing (.inl rfl) op).symm
  · rw [hSame]

theorem Nulled.holds_right (h : Nulled e e') (op : CompareOp) (record : RecordView) (v : Value) :
    op.holds v (e'.evaluate record) = op.holds v (e.evaluate record) := by
  rw [← CompareOp.holds_flipped, h.holds_left, CompareOp.holds_flipped]

end Expression

/-! ## Filters -/

namespace Filter

/-- Whether a literal is the value that a NOT IN looks for. -/
inductive Place where
  | sought
  | elsewhere

/-- `Nulled place f g`: one absent literal of `f`, at a place of this kind, is null in `g`. -/
inductive Nulled : Place → Filter → Filter → Prop where
  | sought (candidates : List Expression) :
      Nulled .sought (oneOf (.literal .absent) candidates true)
        (oneOf (.literal .null) candidates true)
  | tested {e e' : Expression} (candidates : List Expression) (negated : Bool)
      (h : e.Nulled e') (hPlace : negated = true → e ≠ .literal .absent) :
      Nulled .elsewhere (oneOf e candidates negated) (oneOf e' candidates negated)
  | candidate {c c' : Expression} (e : Expression) (before after : List Expression)
      (negated : Bool) (h : c.Nulled c') :
      Nulled .elsewhere (oneOf e (before ++ c :: after) negated)
        (oneOf e (before ++ c' :: after) negated)
  | left {e e' : Expression} (op : CompareOp) (right : Expression) (h : e.Nulled e') :
      Nulled .elsewhere (comparison op e right) (comparison op e' right)
  | right {e e' : Expression} (op : CompareOp) (left : Expression) (h : e.Nulled e') :
      Nulled .elsewhere (comparison op left e) (comparison op left e')
  | like {e e' : Expression} (pattern : LikePattern) (negated : Bool) (h : e.Nulled e') :
      Nulled .elsewhere (like e pattern negated) (like e' pattern negated)
  | subject {e e' : Expression} (op : SpatialOp) (right : Expression) (h : e.Nulled e') :
      Nulled .elsewhere (spatial op e right) (spatial op e' right)
  | object {e e' : Expression} (op : SpatialOp) (left : Expression) (h : e.Nulled e') :
      Nulled .elsewhere (spatial op left e) (spatial op left e')
  | id (before after : List Value) :
      Nulled .elsewhere (ids (before ++ .absent :: after)) (ids (before ++ .null :: after))
  | operand {place : Place} {f g : Filter} (op : LogicOp) (before after : List Filter)
      (h : Nulled place f g) :
      Nulled place (logic op (before ++ f :: after)) (logic op (before ++ g :: after))

variable {place : Place} {f g : Filter}

/-- A function that does not tell two elements apart maps two lists that differ in them to one. -/
theorem map_replaced {α β : Type} {φ : α → β} {a a' : α} (h : φ a' = φ a) (before after : List α) :
    (before ++ a' :: after).map φ = (before ++ a :: after).map φ := by
  rw [List.map_append, List.map_cons, h, ← List.map_cons, ← List.map_append]

theorem operandChars_eq_map (fs : List Filter) : operandChars fs = fs.map cqlChars := by
  induction fs with
  | nil => rfl
  | cons f fs ih => rw [operandChars, ih, List.map_cons]

theorem arguments_of_subject {e e' : Expression} (h : e.Nulled e') (op : SpatialOp)
    (right : Expression) :
    (spatialArguments op e' right).map Expression.cqlChars
      = (spatialArguments op e right).map Expression.cqlChars := by
  unfold spatialArguments
  split
  · exact map_replaced h.cqlChars [] _
  · exact map_replaced h.cqlChars [] [right]

/-- Neither missing value is the rectangle of a box test, whose corners are printed. -/
theorem arguments_of_object {e e' : Expression} (h : e.Nulled e') (op : SpatialOp)
    (left : Expression) :
    (spatialArguments op left e').map Expression.cqlChars
      = (spatialArguments op left e).map Expression.cqlChars := by
  have hObject : ∀ low high, e ≠ .literal (.geometry (.rect low high)) := by
    rintro low high rfl
    cases h
  have hObject' : ∀ low high, e' ≠ .literal (.geometry (.rect low high)) := by
    rintro low high rfl
    cases h
  rw [spatialArguments_of_ne_rect op left hObject, spatialArguments_of_ne_rect op left hObject']
  exact map_replaced h.cqlChars [left] []

/-- The text does not tell which missing value a literal is. -/
theorem Nulled.cqlChars (h : Nulled place f g) : g.cqlChars = f.cqlChars := by
  induction h with
  | sought => rfl
  | tested candidates negated h =>
    show Expression.cqlChars _ ++ _ = Expression.cqlChars _ ++ _
    rw [h.cqlChars]
  | candidate e before after negated h =>
    show e.cqlChars ++ ' ' :: (_ ++ joinWith _ (List.map _ _) ++ _)
      = e.cqlChars ++ ' ' :: (_ ++ joinWith _ (List.map _ _) ++ _)
    rw [map_replaced h.cqlChars]
  | left op right h =>
    show Expression.cqlChars _ ++ _ = Expression.cqlChars _ ++ _
    rw [h.cqlChars]
  | right op left h =>
    show left.cqlChars ++ ' ' :: (_ ++ ' ' :: Expression.cqlChars _)
      = left.cqlChars ++ ' ' :: (_ ++ ' ' :: Expression.cqlChars _)
    rw [h.cqlChars]
  | like pattern negated h =>
    show Expression.cqlChars _ ++ _ = Expression.cqlChars _ ++ _
    rw [h.cqlChars]
  | subject op right h =>
    show spatialChars op _ right = spatialChars op _ right
    rw [spatialChars_eq, spatialChars_eq, arguments_of_subject h]
  | object op left h =>
    show spatialChars op left _ = spatialChars op left _
    rw [spatialChars_eq, spatialChars_eq, arguments_of_object h]
  | id before after =>
    have hMissing : Value.null.literalChars = Value.absent.literalChars := rfl
    show _ ++ (joinWith _ (List.map _ _) ++ _) = _ ++ (joinWith _ (List.map _ _) ++ _)
    rw [map_replaced hMissing]
  | operand op before after _ ih =>
    show logicChars op (operandChars _) = logicChars op (operandChars _)
    rw [operandChars_eq_map, operandChars_eq_map, map_replaced ih]

/-! ## Records -/

/-- A missing value is in no list. -/
theorem not_found_of_isMissing {v : Value} (h : v.isMissing = true) (candidates : List Expression)
    (record : RecordView) :
    (candidates.any fun c => CompareOp.eq.holds v (c.evaluate record)) = false :=
  List.any_eq_false.2 fun _ _ => by simp [Value.holds_of_isMissing (.inl h)]

section

variable [Relate]

/-- Membership asks for equality with a candidate, and also its negated form for a value. -/
theorem accepts_membership (e : Expression) (candidates : List Expression) (negated : Bool)
    (record : RecordView) :
    (oneOf e candidates negated).accepts record
      = (!(e.evaluate record).isAbsent && (candidates.any fun c =>
          CompareOp.eq.holds (e.evaluate record) (c.evaluate record)) != negated) := rfl

/-- NOT IN rejects every record if it looks for an absent literal. -/
theorem accepts_notIn_absent (candidates : List Expression) (record : RecordView) :
    (oneOf (.literal .absent) candidates true).accepts record = false := rfl

/-- NOT IN accepts every record if it looks for a null literal. -/
theorem accepts_notIn_null (candidates : List Expression) (record : RecordView) :
    (oneOf (.literal .null) candidates true).accepts record = true := by
  have hFound := not_found_of_isMissing (v := .null) rfl candidates record
  rw [accepts_membership, Expression.evaluate, hFound]
  rfl

/-- Away from the value that a NOT IN looks for, it makes no difference which missing value a
    literal is. -/
theorem Nulled.accepts (h : Nulled place f g) (hPlace : place = .elsewhere)
    (record : RecordView) : g.accepts record = f.accepts record := by
  induction h with
  | sought => exact Place.noConfusion hPlace
  | tested candidates negated h hTested =>
    rcases h.literal_or_evaluate with ⟨rfl, rfl⟩ | hSame
    · cases negated with
      | true => exact absurd rfl (hTested rfl)
      | false =>
        have hFound := not_found_of_isMissing (v := .null) rfl candidates record
        rw [accepts_membership, Expression.evaluate, hFound]
        rfl
    · rw [accepts_membership, hSame, accepts_membership]
  | candidate e before after negated h =>
    rw [accepts_membership, accepts_membership, List.any_append, List.any_cons, h.holds_right,
      List.any_append, List.any_cons]
  | left op right h => exact h.holds_left op record _
  | right op left h => exact h.holds_right op record _
  | like pattern negated h => simp only [Filter.accepts, h.asText]
  | subject op right h => simp only [Filter.accepts, h.evaluateGeometry]
  | object op left h => simp only [Filter.accepts, h.evaluateGeometry]
  | id before after => simp [Filter.accepts, Value.asText]
  | @operand place f g op before after _ ih =>
    have hMap := map_replaced (φ := Filter.accepts record) (ih hPlace) before after
    cases op with
    | and => exact allAccept_of_map hMap
    | or => exact anyAccepts_of_map hMap
    | not => exact congrArg not (allAccept_of_map hMap)

end

/-! ## Any set of literals -/

theorem cqlChars_of_nulled (h : Relation.ReflTransGen (fun f g => ∃ place, Nulled place f g) f g) :
    g.cqlChars = f.cqlChars := by
  induction h with
  | refl => rfl
  | tail _ hStep ih =>
    obtain ⟨_, hStep⟩ := hStep
    exact hStep.cqlChars.trans ih

theorem accepts_of_nulled [Relate] (h : Relation.ReflTransGen (Nulled .elsewhere) f g)
    (record : RecordView) : g.accepts record = f.accepts record := by
  induction h with
  | refl => rfl
  | tail _ hStep ih => exact (hStep.accepts rfl record).trans ih

/-- The text that is written for the filter with null literals is read as a filter that accepts the
    same records, if there is no other obstacle to reading it. -/
theorem parse_toCql_of_nulled (h : Relation.ReflTransGen (Nulled .elsewhere) f g)
    (hWritable : g.Writable) :
    ∃ d f', (∀ m, d ≤ m → parse f.toCql m = .ok f') ∧ f'.SameAnswers f := by
  obtain ⟨ks, d, f', hYields, hSentence, hSame⟩ := hWritable.keepsMeaning
  rw [cqlChars_of_nulled (Relation.ReflTransGen.mono (fun _ _ hStep => ⟨_, hStep⟩) _ _ h)]
    at hYields
  refine ⟨d, f', fun m hm => parse_of_sentence ?_ hSentence.whole hm, fun hSigns record => ?_⟩
  · rw [toCql, String.toList_ofList]
    exact hYields.cuts
  · rw [hSame hSigns, accepts_of_nulled h]

/-- However many absent literals become null, the text stays the same; unless a NOT IN looks for one
    of them, the answers do too, and the text is read as a filter with these answers if there is no
    other obstacle to reading it, and geometries are related alike whatever signs zeros have. A NOT
    IN that looks for the literal rejects every record if it is absent, and accepts every record if
    it is null. -/
theorem nulled_accepts (f g : Filter) :
    (Relation.ReflTransGen (fun f g => ∃ place, Nulled place f g) f g → g.toCql = f.toCql) ∧
      (Relation.ReflTransGen (Nulled .elsewhere) f g →
        (∀ [Relate] record, g.accepts record = f.accepts record) ∧
          (g.Writable → ∃ d f', (∀ m, d ≤ m → parse f.toCql m = .ok f') ∧
            ∀ [Relate], Relate.IgnoresZeroSigns →
              ∀ record, f'.accepts record = f.accepts record)) ∧
      ∀ [Relate] candidates record,
        (oneOf (.literal .absent) candidates true).accepts record = false ∧
          (oneOf (.literal .null) candidates true).accepts record = true := by
  refine ⟨fun h => congrArg String.ofList (cqlChars_of_nulled h), fun h => ?_, ?_⟩
  · exact ⟨accepts_of_nulled h, parse_toCql_of_nulled h⟩
  · intro _ candidates record
    exact ⟨accepts_notIn_absent candidates record, accepts_notIn_null candidates record⟩

/-- Two absent literals, one of them a candidate of a NOT IN. -/
theorem nulled_accepts_candidate :
    let f := logic .or [.comparison .eq (.arithmetic .add (.literal .absent) (.attr "a"))
      (.attr "a"), .oneOf (.attr "a") [.literal .absent] true]
    let g := logic .or [.comparison .eq (.arithmetic .add (.literal .null) (.attr "a"))
      (.attr "a"), .oneOf (.attr "a") [.literal .null] true]
    (Relation.ReflTransGen (Nulled .elsewhere) f g ∧ g.Writable ∧ Relate.IgnoresZeroSigns) ∧
      (∀ record, g.accepts record = f.accepts record) ∧
        ∃ d f', (∀ m, d ≤ m → parse f.toCql m = .ok f') ∧
          ∀ record, f'.accepts record = f.accepts record := by
  intro f g
  have hFirst : Nulled .elsewhere f _ :=
    .operand .or [] _ (.left .eq (.attr "a") (.left .add (.attr "a") .literal))
  have hSecond : Nulled .elsewhere _ g :=
    .operand .or [_] [] (.candidate (.attr "a") [] [] true .literal)
  have hSteps := (Relation.ReflTransGen.single hFirst).tail hSecond
  have hWritable : g.Writable := by
    refine .combination .or ?_
    simp only [List.forall_mem_cons, List.not_mem_nil, false_imp_iff, implies_true, and_true]
    exact ⟨.test (.comparison .eq ⟨trivial, trivial⟩ trivial),
      .test (.oneOf true trivial (List.cons_ne_nil _ _) (by simp [Expression.Printable,
        Value.Printable]))⟩
  have hAnswers := (nulled_accepts f g).2.1 hSteps
  obtain ⟨d, f', hParse, hAccepts⟩ := hAnswers.2 hWritable
  have hSigns := Relate.exact_ignoresZeroSigns
  exact ⟨⟨hSteps, hWritable, hSigns⟩, hAnswers.1, d, f', hParse, hAccepts hSigns⟩

/-- An absent value is not in a list, but NOT IN rejects it; and what is read in its place is
    accepted. -/
theorem notIn_absent_read_as_null :
    let f := oneOf (.literal .absent) [.literal (.text "a")] true
    let g := oneOf (.literal .null) [.literal (.text "a")] true
    Nulled .sought f g ∧ parse f.toCql 64 = .ok g ∧
      f.accepts (Record.ofList []).view = false ∧ g.accepts (Record.ofList []).view = true := by
  intro f g
  have hText : f.toCql = "NULL NOT IN ('a')" := rfl
  have hCuts : Cuts "NULL NOT IN ('a')".toList
      [.keyword .NULL, .keyword .NOT, .keyword .IN, .opening, .text "a", .closing] [] :=
    .token rfl (.space rfl (.token rfl (.space rfl (.token rfl (.space rfl
      (.token rfl (.token rfl (.token rfl .done))))))))
  have hSentence : Sentence .negation 0
      [.keyword .NULL, .keyword .NOT, .keyword .IN, .opening, .text "a", .closing] g :=
    .predicate (.membership true (sum_of_unary (.operand .null))
      (.one (sum_of_unary (.operand (.text "a")))))
  refine ⟨.sought _, ?_, rfl, accepts_notIn_null _ _⟩
  rw [hText]
  exact parse_of_sentence hCuts hSentence.whole (Nat.zero_le 64)

end Filter

end GeoFilter
