import GeoFilter.Proofs.Comparison
import GeoFilter.Proofs.Missing

set_option autoImplicit false

/-! # Derived and negated tests

Membership in a list is the disjunction of equalities with its candidates. A test and its negated
form never accept the same record, and one of them accepts it exactly if the test has an answer: if
there is a value to look for in a list, a text to match, an attribute that may be null. For a value
between two bounds, one of them accepts if the value has an order with both, or lies outside of
one. -/

namespace GeoFilter

/-! ## Bounds -/

namespace CompareOp

/-- Where there is an order, a value is at least another one if it is not less. -/
theorem holds_ge (v w : Value) : ge.holds v w = ((v.order w).isSome && !lt.holds v w) := by
  simp only [holds]
  rcases v.order w with _ | _ | _ | _ <;> rfl

theorem holds_le (v w : Value) : le.holds v w = ((v.order w).isSome && !gt.holds v w) := by
  simp only [holds]
  rcases v.order w with _ | _ | _ | _ <;> rfl

end CompareOp

namespace Filter

variable [Relate]

/-! ## Opposed tests -/

/-- Two filters never accept a record together, and one of them accepts it exactly if it is decided
    by them. -/
structure Opposed (record : RecordView) (f g : Filter) (decided : Prop) : Prop where
  not_both : ¬ (f.accepts record = true ∧ g.accepts record = true)
  one_iff : f.accepts record = true ∨ g.accepts record = true ↔ decided

variable {record : RecordView} {f g : Filter}

/-- A test and its negated form are opposed if they read one answer in two ways. -/
theorem Opposed.of_answer {decided : Prop} (answer : Option Bool)
    (hf : f.accepts record = (answer == some true)) (hg : g.accepts record = (answer == some false))
    (hDecided : answer ≠ none ↔ decided) : Opposed record f g decided := by
  rcases answer with _ | _ | _
  all_goals exact ⟨by simp [hf, hg], by simp [hf, hg, ← hDecided]⟩

/-! ## Membership -/

/-- Membership asks for equality with one of the candidates, of which an absent value has none. -/
theorem accepts_oneOf (record : RecordView) (e : Expression) (candidates : List Expression) :
    (oneOf e candidates false).accepts record
      = (anyOf (candidates.map (comparison .eq e))).accepts record := by
  have hEquals : ((candidates.map (comparison .eq e)).any fun f => f.accepts record)
      = candidates.any fun c => CompareOp.eq.holds (e.evaluate record) (c.evaluate record) :=
    List.any_map
  rw [accepts_anyOf, anyAccepts_eq, hEquals, accepts]
  cases hValue : e.evaluate record with
  | absent => simp [Value.isAbsent, CompareOp.holds_absent_left]
  | _ => simp [Value.isAbsent, CompareOp.holds]

theorem opposed_oneOf (record : RecordView) (e : Expression) (candidates : List Expression) :
    Opposed record (oneOf e candidates false) (oneOf e candidates true)
      (e.evaluate record ≠ .absent) := by
  let found := candidates.any fun c => (e.evaluate record).equal (c.evaluate record) == some true
  refine .of_answer (if (e.evaluate record).isAbsent then none else some found) ?_ ?_ ?_
  · rw [accepts]
    cases (e.evaluate record).isAbsent <;> simp [found]
  · rw [accepts]
    cases (e.evaluate record).isAbsent <;> simp [found]
  · cases e.evaluate record <;> simp [Value.isAbsent]

/-! ## Patterns and null -/

theorem opposed_like (record : RecordView) (e : Expression) (pattern : LikePattern) :
    Opposed record (like e pattern false) (like e pattern true)
      ((e.evaluate record).asText ≠ none) := by
  refine .of_answer ((e.evaluate record).asText.map pattern.isMatch) ?_ ?_ (by simp)
  all_goals
    rw [accepts]
    cases (e.evaluate record).asText <;> simp

theorem opposed_isNull (record : RecordView) (name : String) :
    Opposed record (isNull name false) (isNull name true) (record.lookup name ≠ .absent) := by
  refine .of_answer (if (record.lookup name).isAbsent then none
    else some (record.lookup name).isNull) ?_ ?_ ?_
  all_goals cases h : record.lookup name <;> simp [accepts, h, Value.isAbsent, Value.isNull]

/-! ## Ranges -/

theorem accepts_between (record : RecordView) (e low high : Expression) :
    (between e low high).accepts record
      = (CompareOp.ge.holds (e.evaluate record) (low.evaluate record) &&
        CompareOp.le.holds (e.evaluate record) (high.evaluate record)) := by
  rw [between, accepts_allOf, allAccept_eq]
  simp [accepts]

theorem accepts_notBetween (record : RecordView) (e low high : Expression) :
    (notBetween e low high).accepts record
      = (CompareOp.lt.holds (e.evaluate record) (low.evaluate record) ||
        CompareOp.gt.holds (e.evaluate record) (high.evaluate record)) := by
  rw [notBetween, accepts_anyOf, anyAccepts_eq]
  simp [accepts]

/-- Between the bounds and outside of them are opposed: a value that has an order with both bounds
    is one of the two, and so is a value that lies outside of one bound, whatever the other is. -/
theorem opposed_between (record : RecordView) (e low high : Expression) :
    Opposed record (between e low high) (notBetween e low high)
      ((e.evaluate record).order (low.evaluate record) ≠ none ∧
          (e.evaluate record).order (high.evaluate record) ≠ none ∨
        CompareOp.lt.holds (e.evaluate record) (low.evaluate record) = true ∨
        CompareOp.gt.holds (e.evaluate record) (high.evaluate record) = true) := by
  have hBetween := accepts_between record e low high
  have hNotBetween := accepts_notBetween record e low high
  rw [CompareOp.holds_ge, CompareOp.holds_le] at hBetween
  constructor
  · rw [hBetween, hNotBetween]
    cases CompareOp.lt.holds (e.evaluate record) (low.evaluate record) <;>
      cases CompareOp.gt.holds (e.evaluate record) (high.evaluate record) <;> simp
  · rw [hBetween, hNotBetween, Option.ne_none_iff_isSome, Option.ne_none_iff_isSome]
    cases CompareOp.lt.holds (e.evaluate record) (low.evaluate record) <;>
      cases CompareOp.gt.holds (e.evaluate record) (high.evaluate record) <;> simp

/-! ## All of them -/

/-- On every record: membership is the disjunction of equalities; membership, a pattern, a test for
    null and a range are each opposed to their negated forms. The first is decided unless the value
    is absent, the second if the value can be read as text, the third unless the attribute is
    absent, and the last in particular if the value has an order with both bounds. -/
theorem derived_tests_agree (record : RecordView) (e low high : Expression)
    (candidates : List Expression) (pattern : LikePattern) (name : String) :
    (oneOf e candidates false).accepts record
        = (anyOf (candidates.map (comparison .eq e))).accepts record ∧
      Opposed record (oneOf e candidates false) (oneOf e candidates true)
        (e.evaluate record ≠ .absent) ∧
      Opposed record (like e pattern false) (like e pattern true)
        ((e.evaluate record).asText ≠ none) ∧
      Opposed record (isNull name false) (isNull name true) (record.lookup name ≠ .absent) ∧
      Opposed record (between e low high) (notBetween e low high)
        ((e.evaluate record).order (low.evaluate record) ≠ none ∧
            (e.evaluate record).order (high.evaluate record) ≠ none ∨
          CompareOp.lt.holds (e.evaluate record) (low.evaluate record) = true ∨
          CompareOp.gt.holds (e.evaluate record) (high.evaluate record) = true) :=
  ⟨accepts_oneOf record e candidates, opposed_oneOf record e candidates,
    opposed_like record e pattern, opposed_isNull record name, opposed_between record e low high⟩

end Filter

end GeoFilter
