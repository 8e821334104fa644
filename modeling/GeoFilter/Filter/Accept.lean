import GeoFilter.Filter.Basic
import GeoFilter.Sorted

set_option autoImplicit false

/-! # Applying filters to records

A filter answers for every record: where a value is missing, or is not of a kind that the test
can use, the test fails. How geometries are related is up to `Relate`. `Filter.attributes` names
what a filter looks up. -/

namespace GeoFilter

namespace Filter

section

variable [Relate]

mutual

/-- Whether a filter accepts a record. -/
def accepts (record : RecordView) : Filter → Bool
  | everything => true
  | nothing => false
  | comparison op left right => op.holds (left.evaluate record) (right.evaluate record)
  | logic .and operands => allAccept record operands
  | logic .or operands => anyAccepts record operands
  | logic .not operands => !allAccept record operands
  | oneOf e candidates negated =>
    let value := e.evaluate record
    !value.isAbsent &&
      (candidates.any (fun c => value.equal (c.evaluate record) == some true)) != negated
  | like e pattern negated =>
    match (e.evaluate record).asText with
    | some text => pattern.isMatch text != negated
    | none => false
  | isNull name negated =>
    match record.lookup name with
    | .absent => false
    | .null => !negated
    | _ => negated
  | spatial op left right =>
    match left.evaluateGeometry record, right.evaluateGeometry record with
    | some g, some h => op.holds g h
    | _, _ => false
  | ids candidates =>
    match record.id with
    | some id => candidates.any fun candidate => candidate.asText == some id
    | none => false

/-- Whether every filter of a list accepts a record. -/
def allAccept (record : RecordView) : List Filter → Bool
  | [] => true
  | f :: fs => f.accepts record && allAccept record fs

/-- Whether some filter of a list accepts a record. -/
def anyAccepts (record : RecordView) : List Filter → Bool
  | [] => false
  | f :: fs => f.accepts record || anyAccepts record fs

end

theorem allAccept_eq (record : RecordView) (fs : List Filter) :
    allAccept record fs = fs.all (·.accepts record) := by
  induction fs with
  | nil => rfl
  | cons f fs ih => rw [allAccept, ih, List.all_cons]

theorem anyAccepts_eq (record : RecordView) (fs : List Filter) :
    anyAccepts record fs = fs.any (·.accepts record) := by
  induction fs with
  | nil => rfl
  | cons f fs ih => rw [anyAccepts, ih, List.any_cons]

theorem allAccept_of_map {record : RecordView} {fs gs : List Filter}
    (h : fs.map (·.accepts record) = gs.map (·.accepts record)) :
    allAccept record fs = allAccept record gs := by
  have hAll := congrArg (List.all · id) h
  simpa only [allAccept_eq, List.all_map, Function.comp_def, id_eq] using hAll

theorem anyAccepts_of_map {record : RecordView} {fs gs : List Filter}
    (h : fs.map (·.accepts record) = gs.map (·.accepts record)) :
    anyAccepts record fs = anyAccepts record gs := by
  have hAny := congrArg (List.any · id) h
  simpa only [anyAccepts_eq, List.any_map, Function.comp_def, id_eq] using hAny

/-- A conjunction accepts what all its filters accept, also where it collapses. -/
theorem accepts_allOf (record : RecordView) (fs : List Filter) :
    (allOf fs).accepts record = allAccept record fs := by
  rcases fs with _ | ⟨f, _ | ⟨g, fs⟩⟩
  · rfl
  · simp [allOf, allAccept]
  · rfl

/-- A disjunction accepts what one of its filters accepts, also where it collapses. -/
theorem accepts_anyOf (record : RecordView) (fs : List Filter) :
    (anyOf fs).accepts record = anyAccepts record fs := by
  rcases fs with _ | ⟨f, _ | ⟨g, fs⟩⟩
  · rfl
  · simp [anyOf, anyAccepts]
  · rfl

end

/-! ## What a filter looks up -/

mutual

/-- The attribute names that a filter mentions, from left to right. -/
def mentioned : Filter → List String
  | everything => []
  | nothing => []
  | comparison _ left right => left.mentioned ++ right.mentioned
  | logic _ operands => mentionedInAll operands
  | oneOf e candidates _ => e.mentioned ++ candidates.flatMap Expression.mentioned
  | like e _ _ => e.mentioned
  | isNull name _ => [name]
  | spatial _ left right => left.mentioned ++ right.mentioned
  | ids _ => []

/-- The attribute names that the filters of a list mention. -/
def mentionedInAll : List Filter → List String
  | [] => []
  | f :: fs => f.mentioned ++ mentionedInAll fs

end

/-- The attribute names that a filter mentions, in order and each one once. -/
def attributes (f : Filter) : List String := sorted (fun a b => a ≤ b) f.mentioned

end Filter

/-- The attribute names that an expression mentions, in order and each one once. -/
def Expression.attributes (e : Expression) : List String := sorted (fun a b => a ≤ b) e.mentioned

end GeoFilter
