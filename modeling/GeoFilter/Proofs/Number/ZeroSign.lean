import GeoFilter.Number.Text
import GeoFilter.Planar.Point
import GeoFilter.Proofs.Number.Double
import GeoFilter.Value.Compare
import Mathlib

set_option autoImplicit false

/-! # The sign of zero makes no difference

The two zeros are equal, have one text and are one rational number. A sum, a difference or a
product is the same for both of them, but for its own sign if it is zero, and so is a quotient with
a zero above the line. Below the line a zero has no quotient, of whichever sign. -/

namespace GeoFilter.Number

open Float.Model Float.Model.UnpackedFloat

/-! ## Unpacked numbers -/

/-- An unpacked number without the sign of zero. -/
def unsignedZero : UnpackedFloat → UnpackedFloat
  | .zero _ => .zero .positive
  | u => u

theorem code_of_unpack_zero {x : Float} {s : Sign} (h : x.toModel.unpack = .zero s) :
    code x = 0 := by
  have hBits : x.toBits.toBitVec = packedZero Format.binary64 s :=
    (unpack_eq_zero_iff_of_valid x.toModel.valid).1 h
  unfold code
  rw [← UInt64.toNat_toBitVec, hBits]
  cases s <;> rfl

theorem unpack_withoutZeroSign (x : Float) :
    (withoutZeroSign x).toModel.unpack = unsignedZero x.toModel.unpack := by
  unfold withoutZeroSign
  split
  · next hCode => rw [unpack_of_code_zero hCode, unpack_zero]; rfl
  · next hCode =>
    cases hUnpacked : x.toModel.unpack with
    | zero s => exact absurd (code_of_unpack_zero hUnpacked) hCode
    | infinity | notANumber | finite => rfl

theorem eq_of_unpack {x y : Float} (h : x.toModel.unpack = y.toModel.unpack) : x = y := by
  have hBits := (unpack_inj_of_valid x.toModel.valid y.toModel.valid).1 h
  exact Float.toBits_inj.1 (UInt64.toBitVec_inj.1 hBits)

theorem withoutZeroSign_eq_iff {x y : Float} :
    withoutZeroSign x = withoutZeroSign y
      ↔ unsignedZero x.toModel.unpack = unsignedZero y.toModel.unpack := by
  rw [← unpack_withoutZeroSign, ← unpack_withoutZeroSign]
  exact ⟨fun h => by rw [h], eq_of_unpack⟩

/-- The double with an unpacked value. -/
def ofUnpacked (u : UnpackedFloat) : Float := ⟨Float.Model.pack u⟩

theorem withoutZeroSign_ofUnpacked {u v : UnpackedFloat} (h : unsignedZero u = unsignedZero v) :
    withoutZeroSign (ofUnpacked u) = withoutZeroSign (ofUnpacked v) := by
  have hZero : ∀ s : Sign, withoutZeroSign (ofUnpacked (.zero s)) = ofCode false 0 := by decide
  cases u with
  | zero s =>
    cases v with
    | zero s' => rw [hZero, hZero]
    | infinity | notANumber | finite => exact UnpackedFloat.noConfusion h
  | infinity | notANumber | finite =>
    cases v with
    | zero s' => exact UnpackedFloat.noConfusion h
    | infinity | notANumber | finite => exact congrArg (fun u => withoutZeroSign (ofUnpacked u)) h

/-! ## Arithmetic -/

section

variable {x x' y y' : Float}

/-- An operation that does not see the sign of zero in unpacked numbers does not see it in
    doubles. -/
theorem withoutZeroSign_congr (op : UnpackedFloat → UnpackedFloat → UnpackedFloat)
    (hOp : ∀ u v, unsignedZero (op (unsignedZero u) (unsignedZero v)) = unsignedZero (op u v))
    (hx : withoutZeroSign x = withoutZeroSign x') (hy : withoutZeroSign y = withoutZeroSign y') :
    withoutZeroSign (ofUnpacked (op x.toModel.unpack y.toModel.unpack))
      = withoutZeroSign (ofUnpacked (op x'.toModel.unpack y'.toModel.unpack)) := by
  apply withoutZeroSign_ofUnpacked
  rw [← hOp, withoutZeroSign_eq_iff.1 hx, withoutZeroSign_eq_iff.1 hy, hOp]

theorem withoutZeroSign_add (hx : withoutZeroSign x = withoutZeroSign x')
    (hy : withoutZeroSign y = withoutZeroSign y') :
    withoutZeroSign (x + y) = withoutZeroSign (x' + y') := by
  refine withoutZeroSign_congr (.add Format.binary64) ?_ hx hy
  intro u v
  cases u <;> cases v <;> simp only [unsignedZero, UnpackedFloat.add]
  all_goals split_ifs <;> rfl

theorem withoutZeroSign_sub (hx : withoutZeroSign x = withoutZeroSign x')
    (hy : withoutZeroSign y = withoutZeroSign y') :
    withoutZeroSign (x - y) = withoutZeroSign (x' - y') := by
  refine withoutZeroSign_congr (.sub Format.binary64) ?_ hx hy
  intro u v
  cases u <;> cases v <;> simp only [unsignedZero, UnpackedFloat.sub]
  all_goals split_ifs <;> rfl

theorem withoutZeroSign_mul (hx : withoutZeroSign x = withoutZeroSign x')
    (hy : withoutZeroSign y = withoutZeroSign y') :
    withoutZeroSign (x * y) = withoutZeroSign (x' * y') := by
  refine withoutZeroSign_congr (.mul Format.binary64) ?_ hx hy
  intro u v
  cases u <;> cases v <;> rfl

/-- A quotient does not see the sign of a zero above the line. -/
theorem withoutZeroSign_div (hx : withoutZeroSign x = withoutZeroSign x') (y : Float) :
    withoutZeroSign (x / y) = withoutZeroSign (x' / y) := by
  refine withoutZeroSign_congr (fun u _ => .div Format.binary64 u y.toModel.unpack) ?_ hx
    (Eq.refl (withoutZeroSign y))
  intro u _
  cases u <;> cases y.toModel.unpack <;> rfl

end

/-! ## Comparison, text and value -/

theorem withoutZeroSign_beq_withoutZeroSign (x y : Float) :
    (withoutZeroSign x == withoutZeroSign y) = (x == y) := by
  rw [Bool.eq_iff_iff, beq_iff, beq_iff, compare_withoutZeroSign]

/-- Numbers that are equal differ in the sign of a zero at most. -/
theorem withoutZeroSign_eq_of_beq {x y : Float} (h : (x == y) = true) :
    withoutZeroSign x = withoutZeroSign y := by
  obtain ⟨-, -, rfl | ⟨rfl, rfl⟩ | ⟨rfl, rfl⟩⟩ := Float.beq_iff_ne_nan_and_eq.1 h
  · rfl
  · decide
  · decide

theorem withoutZeroSign_eq_self {x : Float} (h : (x == 0) = false) : withoutZeroSign x = x := by
  refine if_neg fun hCode => ?_
  have hZero : (x == 0) = true := by
    rw [beq_iff, unpack_of_code_zero hCode]
    rfl
  rw [h] at hZero
  exact Bool.false_ne_true hZero

theorem shape_of_code_zero {x : Float} (h : code x = 0) : shape x = .finite (isNegative x) 0 := by
  unfold shape
  rw [h]
  rfl

theorem isFinite_withoutZeroSign (x : Float) : (withoutZeroSign x).isFinite = x.isFinite := by
  unfold withoutZeroSign
  split
  · next hCode =>
    have hFinite : x.isFinite = true := by
      rw [isFinite_iff, hCode]
      decide
    rw [hFinite]
    decide
  · rfl

theorem canonical_withoutZeroSign (x : Float) : canonical (withoutZeroSign x) = canonical x := by
  unfold withoutZeroSign
  split
  · next hCode =>
    have hZero : canonical (ofCode false 0) = "0" := by decide
    rw [hZero, canonical, shape_of_code_zero hCode]
    rfl
  · rfl

theorem toRat_of_code_zero {x : Float} (h : code x = 0) : toRat x = 0 := by
  have hNum : (binary64.quotient 0).1 = 0 := Nat.zero_mul _
  rw [toRat, shape_of_code_zero h]
  dsimp only
  rw [hNum]
  cases isNegative x <;> simp [Rat.zero_mkRat]

theorem toRat_withoutZeroSign (x : Float) : toRat (withoutZeroSign x) = toRat x := by
  unfold withoutZeroSign
  split
  · next hCode => rw [toRat_of_code_zero hCode, toRat_of_code_zero (code_ofCode (by decide))]
  · rfl

theorem order_withoutZeroSign (x y : Float) :
    order (withoutZeroSign x) (withoutZeroSign y) = order x y := by
  simp only [order, withoutZeroSign_lt_iff, withoutZeroSign_beq_withoutZeroSign]

end GeoFilter.Number
