import GeoFilter.Proofs.Attributes

set_option autoImplicit false

/-! # Missing data never matches

An expression that mentions an attribute which a record does not carry has no value for that
record, however deep the attribute stands. A test of such an expression fails, and so does its
negated form, so AND and OR of such tests reject the record. -/

namespace GeoFilter

/-! ## Absent operands -/

theorem ArithmeticOp.apply_absent_left (op : ArithmeticOp) (w : Value) :
    op.apply .absent w = .absent := rfl

theorem ArithmeticOp.apply_absent_right (op : ArithmeticOp) (v : Value) :
    op.apply v .absent = .absent := by
  have hNone : Value.absent.asNumber = none := rfl
  rw [apply, hNone]
  cases v.asNumber <;> rfl

theorem Value.order_absent_right (v : Value) : v.order .absent = none := by cases v <;> rfl

theorem Value.equal_absent_right (v : Value) : v.equal .absent = none := by cases v <;> rfl

/-- No comparison holds with an absent left side. -/
theorem CompareOp.holds_absent_left (op : CompareOp) (w : Value) :
    op.holds .absent w = false := by cases op <;> rfl

/-- No comparison holds with an absent right side. -/
theorem CompareOp.holds_absent_right (op : CompareOp) (v : Value) :
    op.holds v .absent = false := by
  cases op <;> simp [holds, Value.order_absent_right, Value.equal_absent_right]

/-! ## Expressions -/

namespace Expression

/-- The expression mentions an attribute that the record does not carry. -/
def NeedsMissing (e : Expression) (record : RecordView) : Prop :=
  ∃ name, e.RefersTo name ∧ record.lookup name = .absent

variable {e : Expression} {record : RecordView}

theorem NeedsMissing.evaluate (h : e.NeedsMissing record) : e.evaluate record = .absent := by
  obtain ⟨name, hRefers, hAbsent⟩ := h
  induction hRefers with
  | attr => exact hAbsent
  | @left op left right _ ih =>
    rw [Expression.evaluate, ih, ArithmeticOp.apply_absent_left]
  | @right op left right _ ih =>
    rw [Expression.evaluate, ih, ArithmeticOp.apply_absent_right]

theorem NeedsMissing.evaluateGeometry (h : e.NeedsMissing record) :
    e.evaluateGeometry record = none := by
  rw [Expression.evaluateGeometry_eq, h.evaluate]
  rfl

end Expression

/-! ## Filters -/

namespace Filter

/-- The filter is made with AND and OR of tests each of which needs something that the record does
    not have. An AND has an operand, since the AND of nothing accepts every record. -/
inductive OnlyMissing (record : RecordView) : Filter → Prop where
  | comparison {left right : Expression} (op : CompareOp)
      (h : left.NeedsMissing record ∨ right.NeedsMissing record) :
      OnlyMissing record (comparison op left right)
  | conjunction {fs : List Filter} (hNe : fs ≠ []) (h : ∀ f ∈ fs, OnlyMissing record f) :
      OnlyMissing record (logic .and fs)
  | disjunction {fs : List Filter} (h : ∀ f ∈ fs, OnlyMissing record f) :
      OnlyMissing record (logic .or fs)
  | oneOf {e : Expression} (candidates : List Expression) (negated : Bool)
      (h : e.NeedsMissing record) : OnlyMissing record (oneOf e candidates negated)
  | like {e : Expression} (pattern : LikePattern) (negated : Bool) (h : e.NeedsMissing record) :
      OnlyMissing record (like e pattern negated)
  | isNull {name : String} (negated : Bool) (h : record.lookup name = .absent) :
      OnlyMissing record (isNull name negated)
  | spatial {left right : Expression} (op : SpatialOp)
      (h : left.NeedsMissing record ∨ right.NeedsMissing record) :
      OnlyMissing record (spatial op left right)
  | ids (candidates : List Value) (h : record.id = none) : OnlyMissing record (ids candidates)

section

variable [Relate] {record : RecordView}

theorem OnlyMissing.rejected {f : Filter} (h : f.OnlyMissing record) :
    f.accepts record = false := by
  induction h with
  | comparison op h =>
    rw [accepts]
    rcases h with h | h
    · rw [h.evaluate, CompareOp.holds_absent_left]
    · rw [h.evaluate, CompareOp.holds_absent_right]
  | conjunction hNe _ ih =>
    rw [accepts, allAccept_eq, List.all_eq_false]
    obtain ⟨f, hMem⟩ := List.exists_mem_of_ne_nil _ hNe
    exact ⟨f, hMem, by simp [ih f hMem]⟩
  | disjunction _ ih =>
    rw [accepts, anyAccepts_eq, List.any_eq_false]
    intro f hMem
    simp [ih f hMem]
  -- Whether a test is negated is looked at only where there is a value to be tested.
  | oneOf candidates negated h => simp [accepts, h.evaluate, Value.isAbsent]
  | like pattern negated h => simp [accepts, h.evaluate, Value.asText]
  | isNull negated h => simp [accepts, h]
  | spatial op h =>
    rw [accepts]
    rcases h with h | h
    · simp [h.evaluateGeometry]
    · simp [h.evaluateGeometry]
  | ids candidates h => simp [accepts, h]

/-- Where an attribute is missing, an expression that mentions it is absent, and a filter made with
    AND and OR of tests that need something missing rejects the record. -/
theorem missing_never_matches (record : RecordView) :
    (∀ e : Expression, e.NeedsMissing record → e.evaluate record = .absent) ∧
      ∀ f : Filter, f.OnlyMissing record → f.accepts record = false :=
  ⟨fun _ => Expression.NeedsMissing.evaluate, fun _ => OnlyMissing.rejected⟩

end

/-- Negated tests of a column that a record lacks, beside tests of one that it has. -/
theorem missing_never_matches_negated :
    let record := (Record.ofList [("name", .text "n"), ("depth", .null)]).view
    let e : Expression := .arithmetic .mul (.literal (.number 2))
      (.arithmetic .sub (.attr "depth") (.attr "width"))
    let f : Filter := .logic .or [.logic .and [.oneOf e [.attr "name", .literal .null] true,
        .comparison .ne (.attr "name") e], .like (.attr "width") ⟨"%"⟩ true,
      .isNull "width" true, .spatial .disjoint .defaultGeometry (.attr "width"),
      .ids [.text "n"]]
    (e.NeedsMissing record ∧ e.evaluate record = .absent) ∧
      (f.OnlyMissing record ∧ f.accepts record = false) := by
  intro record e f
  have hWidth : record.lookup "width" = .absent := rfl
  have hAttribute : (Expression.attr "width").NeedsMissing record := ⟨"width", .attr, hWidth⟩
  have hExpression : e.NeedsMissing record := ⟨"width", .right (.right .attr), hWidth⟩
  have hFilter : f.OnlyMissing record := by
    refine .disjunction ?_
    simp only [List.forall_mem_cons, List.not_mem_nil, false_imp_iff, implies_true, and_true]
    refine ⟨.conjunction (List.cons_ne_nil _ _) ?_, .like _ _ hAttribute, .isNull _ hWidth,
      .spatial _ (.inr hAttribute), .ids _ rfl⟩
    simp only [List.forall_mem_cons, List.not_mem_nil, false_imp_iff, implies_true, and_true]
    exact ⟨.oneOf _ _ hExpression, .comparison _ (.inr hExpression)⟩
  have hMatches := missing_never_matches record
  exact ⟨⟨hExpression, hMatches.1 e hExpression⟩, hFilter, hMatches.2 f hFilter⟩

end Filter

end GeoFilter
