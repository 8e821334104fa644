import GeoFilter.Proofs.Comparison

set_option autoImplicit false

/-! # Comparing NaN

NaN has no order with any number, itself included. With text it is compared like every other
number: as a number where the text is one, which gives no order, and otherwise by its own text.
So NaN stands for the text `NaN` beside text that is no number, where some operator always holds,
and compares with nothing else. -/

namespace GeoFilter

namespace Number

theorem eq_nan_of_isNaN {x : Float} (h : x.isNaN = true) : x = Float.nan := by
  rwa [Float.isNaN_eq_decide_eq_nan, decide_eq_true_eq] at h

theorem canonical_of_isNaN {x : Float} (h : x.isNaN = true) : canonical x = "NaN" := by
  rw [eq_nan_of_isNaN h]
  decide

theorem order_of_isNaN {x : Float} (h : x.isNaN = true) (y : Float) : order x y = none := by
  have hCompare : Float.nan.toModel.unpack.compare y.toModel.unpack = none := by
    cases y.toModel.unpack <;> rfl
  rw [order_eq_compare, eq_nan_of_isNaN h, hCompare]

end Number

namespace Value

/-- Whether a value is text that is no number. -/
def isWording : Value → Bool
  | text s => (Number.ofText? s).isNone
  | _ => false

section

variable {x : Float}

/-- NaN has the order of its text with text that is no number, and no order with anything else. -/
theorem order_nan (h : x.isNaN = true) (v : Value) :
    (number x).order v = if v.isWording then (text "NaN").order v else none := by
  cases v with
  | absent | null | bool | geometry => rfl
  | number y => exact Number.order_of_isNaN h y
  | text s =>
    show orderNumberText x s
      = if (Number.ofText? s).isNone then some (compare "NaN" s) else none
    unfold orderNumberText
    split
    · next y hNumber =>
      rw [hNumber]
      exact Number.order_of_isNaN h y
    · next hNone =>
      rw [hNone, Number.canonical_of_isNaN h]
      rfl

theorem order_nan_right (h : x.isNaN = true) (v : Value) :
    v.order (number x) = if v.isWording then v.order (text "NaN") else none := by
  rw [order_swap (number x), order_nan h, order_swap (text "NaN")]
  split <;> rfl

/-- Equality with NaN goes by its order. -/
theorem equal_nan (h : x.isNaN = true) (v : Value) :
    (number x).equal v = if v.isWording then (text "NaN").equal v else none := by
  have hEqual : (number x).equal v = ((number x).order v).map (· == .eq) := by
    cases v <;> rfl
  rw [hEqual, order_nan h]
  cases v with
  | text s => split <;> rfl
  | absent | null | number | bool | geometry => rfl

theorem equal_nan_right (h : x.isNaN = true) (v : Value) :
    v.equal (number x) = if v.isWording then v.equal (text "NaN") else none := by
  rw [equal_comm v, equal_nan h, equal_comm v]

theorem holds_nan (h : x.isNaN = true) (op : CompareOp) (v : Value) :
    op.holds (number x) v = (v.isWording && op.holds (text "NaN") v) := by
  cases hWording : v.isWording <;>
    cases op <;> simp [CompareOp.holds, order_nan h, equal_nan h, hWording]

/-- Two texts always compare. -/
theorem exists_holds_text (s t : String) :
    ∃ op, CompareOp.holds op (text s) (text t) = true := by
  cases hOrder : compare s t with
  | lt => exact ⟨.lt, by simp [CompareOp.holds, order, hOrder]⟩
  | eq => exact ⟨.eq, by simp [CompareOp.holds, equal, order, hOrder]⟩
  | gt => exact ⟨.gt, by simp [CompareOp.holds, order, hOrder]⟩

/-- NaN compares with text that is no number, and with nothing else. -/
theorem exists_holds_nan (h : x.isNaN = true) (v : Value) :
    (∃ op, CompareOp.holds op (number x) v = true) ↔ v.isWording = true := by
  constructor
  · rintro ⟨op, hOp⟩
    rw [holds_nan h, Bool.and_eq_true] at hOp
    exact hOp.1
  · intro hWording
    cases v with
    | text s =>
      obtain ⟨op, hOp⟩ := exists_holds_text "NaN" s
      exact ⟨op, by rw [holds_nan h, hWording, hOp]; rfl⟩
    | absent | null | number | bool | geometry => exact absurd hWording Bool.false_ne_true

/-- From either side, NaN compares with no value but text that is no number, and with such text it
    compares as the text `NaN` does, so that some operator holds. -/
theorem nan_compares_as_text (h : x.isNaN = true) (v : Value) :
    (v.isWording = false →
      ((number x).order v = none ∧ v.order (number x) = none) ∧
      ((number x).equal v = none ∧ v.equal (number x) = none) ∧
      ∀ op : CompareOp, op.holds (number x) v = false ∧ op.holds v (number x) = false) ∧
    (v.isWording = true →
      ((number x).order v = (text "NaN").order v ∧ v.order (number x) = v.order (text "NaN")) ∧
      ((number x).equal v = (text "NaN").equal v ∧ v.equal (number x) = v.equal (text "NaN")) ∧
      ∃ op : CompareOp, op.holds (number x) v = true ∧ op.flipped.holds v (number x) = true) := by
  constructor
  · intro hWording
    have hHolds : ∀ op : CompareOp, op.holds (number x) v = false := by
      intro op
      rw [holds_nan h, hWording, Bool.false_and]
    simp only [order_nan h, order_nan_right h, equal_nan h, equal_nan_right h, hWording,
      Bool.false_eq_true, if_false, and_self, true_and]
    intro op
    refine ⟨hHolds op, ?_⟩
    rw [← CompareOp.holds_flipped, hHolds]
  · intro hWording
    obtain ⟨op, hOp⟩ := (exists_holds_nan h v).2 hWording
    simp only [order_nan h, order_nan_right h, equal_nan h, equal_nan_right h, hWording, if_true,
      and_self, true_and]
    exact ⟨op, hOp, by rw [CompareOp.holds_flipped, hOp]⟩

end

/-- NaN is greater than no number and no truth value, and less than a word in small letters. -/
theorem nan_compares_as_text_word :
    Float.nan.isNaN = true ∧
      CompareOp.gt.holds (number Float.nan) (text "-1e9") = false ∧
      (number Float.nan).order (text "width") = some .lt := by
  have hNaN : Float.nan.isNaN = true := by decide
  have hNumber := (nan_compares_as_text hNaN (text "-1e9")).1 (by decide)
  have hWord := (nan_compares_as_text hNaN (text "width")).2 (by decide)
  refine ⟨hNaN, (hNumber.2.2 .gt).1, ?_⟩
  rw [hWord.1.1]
  decide +kernel

/-- NaN is equal to the text that it is written as, and different from other text. -/
theorem nan_equals_text :
    Float.nan.isNaN = true ∧ CompareOp.eq.holds (number Float.nan) (text "NaN") = true ∧
      CompareOp.ne.holds (text "width") (number Float.nan) = true ∧
      ¬ ∀ (op : CompareOp) (v : Value), op.holds (number Float.nan) v = false := by
  have hEqual : CompareOp.eq.holds (number Float.nan) (text "NaN") = true := by decide +kernel
  refine ⟨by decide, hEqual, by decide +kernel, ?_⟩
  intro hNever
  rw [hNever] at hEqual
  exact Bool.false_ne_true hEqual

end Value

end GeoFilter
