import GeoFilter.Number.Binary
import Mathlib.Data.Int.Log
import Mathlib.Data.Rat.Floor
import Mathlib.Tactic.Positivity
import Mathlib.Tactic.Ring

set_option autoImplicit false

/-! # Rounding quotients to a binary format

`BinaryFormat.encode` depends only on the value of the quotient that it is given, and it gives a
finite code back when it is given the quotient of that code. -/

namespace GeoFilter.Number

/-! ## Quotients -/

theorem zpow_eq_div (b : ℚ) (e : ℤ) : b ^ e = b ^ e.toNat / b ^ (-e).toNat := by
  rcases Int.eq_nat_or_neg e with ⟨n, rfl | rfl⟩
  · simp
  · simp

/-- Scaling compares a quotient with a power. -/
theorem scaleDown_le_iff {base den : ℕ} (num : ℕ) (hBase : 0 < base) (hDen : 0 < den) (e : ℤ) :
    (scaleDown base num den e).2 ≤ (scaleDown base num den e).1
      ↔ (base : ℚ) ^ e ≤ (num : ℚ) / den := by
  have hBase' : (0 : ℚ) < base := Nat.cast_pos.2 hBase
  have hPow : (0 : ℚ) < (base : ℚ) ^ (-e).toNat := by positivity
  have hDen' : (0 : ℚ) < den := Nat.cast_pos.2 hDen
  rw [zpow_eq_div, div_le_div_iff₀ hPow hDen']
  simp only [scaleDown, Nat.pow_eq]
  rw [← Nat.cast_le (α := ℚ)]
  push_cast
  rw [mul_comm (den : ℚ)]

/-! ## The binary logarithm -/

theorem log_lt_iff {q : ℚ} (hq : 0 < q) (e : ℤ) : Int.log 2 q < e ↔ q < 2 ^ e :=
  (Int.lt_zpow_iff_log_lt (b := 2) (by decide) hq).symm

theorem le_log_iff {q : ℚ} (hq : 0 < q) (e : ℤ) : e ≤ Int.log 2 q ↔ 2 ^ e ≤ q :=
  (Int.zpow_le_iff_le_log (b := 2) (by decide) hq).symm

theorem floorLog2_eq {num den : ℕ} (hNum : 0 < num) (hDen : 0 < den) :
    floorLog2 num den = Int.log 2 ((num : ℚ) / den) := by
  have hDen' : (0 : ℚ) < den := Nat.cast_pos.2 hDen
  have hq : (0 : ℚ) < (num : ℚ) / den := div_pos (Nat.cast_pos.2 hNum) hDen'
  have hNumLow : (2 : ℚ) ^ num.log2 ≤ num := by
    exact_mod_cast Nat.log2_self_le (Nat.ne_of_gt hNum)
  have hNumHigh : (num : ℚ) < 2 ^ (num.log2 + 1) := by exact_mod_cast Nat.lt_log2_self
  have hDenLow : (2 : ℚ) ^ den.log2 ≤ den := by
    exact_mod_cast Nat.log2_self_le (Nat.ne_of_gt hDen)
  have hDenHigh : (den : ℚ) < 2 ^ (den.log2 + 1) := by exact_mod_cast Nat.lt_log2_self
  -- The difference of the two logarithms is off by at most one; one test decides.
  have hLow : (num.log2 : ℤ) - (den.log2 : ℤ) - 1 ≤ Int.log 2 ((num : ℚ) / den) := by
    rw [le_log_iff hq, le_div_iff₀ hDen']
    calc (2 : ℚ) ^ ((num.log2 : ℤ) - (den.log2 : ℤ) - 1) * den
        ≤ 2 ^ ((num.log2 : ℤ) - (den.log2 : ℤ) - 1) * 2 ^ (den.log2 + 1) :=
          mul_le_mul_of_nonneg_left (le_of_lt hDenHigh) (le_of_lt (zpow_pos two_pos _))
      _ = 2 ^ num.log2 := by
        rw [← zpow_natCast, ← zpow_add₀ two_ne_zero, ← zpow_natCast]
        congr 1
        push_cast
        ring
      _ ≤ num := hNumLow
  have hHigh : Int.log 2 ((num : ℚ) / den) < (num.log2 : ℤ) - (den.log2 : ℤ) + 1 := by
    rw [log_lt_iff hq, div_lt_iff₀ hDen']
    calc (num : ℚ) < 2 ^ (num.log2 + 1) := hNumHigh
      _ = 2 ^ ((num.log2 : ℤ) - (den.log2 : ℤ) + 1) * 2 ^ den.log2 := by
        rw [← zpow_natCast, ← zpow_natCast, ← zpow_add₀ two_ne_zero]
        congr 1
        push_cast
        ring
      _ ≤ 2 ^ ((num.log2 : ℤ) - (den.log2 : ℤ) + 1) * den :=
          mul_le_mul_of_nonneg_left hDenLow (le_of_lt (zpow_pos two_pos _))
  have hScaled := scaleDown_le_iff num two_pos hDen ((num.log2 : ℤ) - (den.log2 : ℤ))
  rw [Nat.cast_ofNat, ← le_log_iff hq] at hScaled
  unfold floorLog2
  dsimp only
  split <;> omega

/-! ## Rounding -/

theorem roundHalfEven_mul_right (num den : ℕ) {k : ℕ} (hk : 0 < k) :
    roundHalfEven (num * k) (den * k) = roundHalfEven num den := by
  unfold roundHalfEven
  rw [Nat.mul_div_mul_right _ _ hk, Nat.mul_mod_mul_right]
  simp only [← Nat.mul_assoc, Nat.mul_lt_mul_right hk]

theorem roundHalfEven_exact (n : ℕ) {k : ℕ} (hk : 0 < k) : roundHalfEven (n * k) k = n := by
  unfold roundHalfEven
  rw [Nat.mul_div_cancel n hk, Nat.mul_mod_left]
  exact if_pos hk

namespace BinaryFormat

variable (f : BinaryFormat)

/-- Only the value of a quotient matters. -/
theorem encode_mul_right {num den k : ℕ} (hDen : 0 < den) (hk : 0 < k) :
    f.encode (num * k) (den * k) = f.encode num den := by
  by_cases hNum : num = 0
  · simp [encode, hNum]
  · have hNum' : 0 < num := Nat.pos_of_ne_zero hNum
    have hLog : floorLog2 (num * k) (den * k) = floorLog2 num den := by
      rw [floorLog2_eq (Nat.mul_pos hNum' hk) (Nat.mul_pos hDen hk), floorLog2_eq hNum' hDen]
      push_cast
      rw [mul_div_mul_right _ _ (Nat.cast_ne_zero.2 (Nat.ne_of_gt hk))]
    have hScaled : ∀ e, scaleDown 2 (num * k) (den * k) e
        = ((scaleDown 2 num den e).1 * k, (scaleDown 2 num den e).2 * k) := by
      intro e
      unfold scaleDown
      rw [Nat.mul_right_comm num, Nat.mul_right_comm den]
    unfold encode
    rw [if_neg hNum, if_neg (Nat.mul_ne_zero hNum (Nat.ne_of_gt hk)), hLog]
    simp only [hScaled, roundHalfEven_mul_right _ _ hk]

/-- A multiple of the step that its size fixes is encoded by counting steps. -/
theorem encode_exact {m : ℕ} {x : ℤ} (hm : m ≠ 0)
    (hx : x = max (Int.log 2 ((m : ℚ) * 2 ^ x) - (f.precision - 1 : ℕ)) f.leastExponent) :
    f.encode (m * 2 ^ x.toNat) (2 ^ (-x).toNat)
      = min ((x - f.leastExponent).toNat * f.binade + m) f.infinityCode := by
  have hValue : ((m * 2 ^ x.toNat : ℕ) : ℚ) / ((2 ^ (-x).toNat : ℕ) : ℚ) = (m : ℚ) * 2 ^ x := by
    rw [zpow_eq_div]
    push_cast
    rw [mul_div_assoc]
  have hNum : m * 2 ^ x.toNat ≠ 0 := Nat.mul_ne_zero hm (by positivity)
  have hScaled : scaleDown 2 (m * 2 ^ x.toNat) (2 ^ (-x).toNat) x
      = (m * (2 ^ x.toNat * 2 ^ (-x).toNat), 2 ^ x.toNat * 2 ^ (-x).toNat) := by
    simp only [scaleDown, Nat.pow_eq]
    rw [Nat.mul_assoc, Nat.mul_comm (2 ^ (-x).toNat)]
  unfold encode
  rw [if_neg hNum, floorLog2_eq (Nat.pos_of_ne_zero hNum) (by positivity), hValue, ← hx]
  dsimp only
  rw [hScaled, roundHalfEven_exact _ (by positivity)]

/-- The exponent of a subnormal magnitude is the least one. -/
theorem exponent_of_subnormal {m : ℕ} (hm : 0 < m) (h : m < f.binade) :
    f.leastExponent = max (Int.log 2 ((m : ℚ) * 2 ^ f.leastExponent) - (f.precision - 1 : ℕ))
      f.leastExponent := by
  have hPow : (0 : ℚ) < 2 ^ f.leastExponent := zpow_pos two_pos _
  have hBinade : (m : ℚ) < 2 ^ (f.precision - 1 : ℕ) := by exact_mod_cast h
  have hLog : Int.log 2 ((m : ℚ) * 2 ^ f.leastExponent)
      < (f.precision - 1 : ℕ) + f.leastExponent := by
    rw [log_lt_iff (mul_pos (Nat.cast_pos.2 hm) hPow), zpow_add₀ two_ne_zero, zpow_natCast]
    exact mul_lt_mul_of_pos_right hBinade hPow
  omega

/-- The exponent of a normal magnitude is the one that its mantissa stands before. -/
theorem exponent_of_normal {m : ℕ} {x : ℤ} (hLow : f.binade ≤ m) (hHigh : m < f.binade * 2)
    (hx : f.leastExponent ≤ x) :
    x = max (Int.log 2 ((m : ℚ) * 2 ^ x) - (f.precision - 1 : ℕ)) f.leastExponent := by
  have hPow : (0 : ℚ) < 2 ^ x := zpow_pos two_pos _
  have hBinade : 0 < f.binade := Nat.pow_pos two_pos
  have hPos : (0 : ℚ) < (m : ℚ) * 2 ^ x :=
    mul_pos (Nat.cast_pos.2 (Nat.lt_of_lt_of_le hBinade hLow)) hPow
  have hLow' : (2 : ℚ) ^ (f.precision - 1 : ℕ) ≤ m := by exact_mod_cast hLow
  have hHigh' : (m : ℚ) < 2 ^ (f.precision - 1 : ℕ) * 2 := by exact_mod_cast hHigh
  have hLogLow : (f.precision - 1 : ℕ) + x ≤ Int.log 2 ((m : ℚ) * 2 ^ x) := by
    rw [le_log_iff hPos, zpow_add₀ two_ne_zero, zpow_natCast]
    exact mul_le_mul_of_nonneg_right hLow' (le_of_lt hPow)
  have hLogHigh : Int.log 2 ((m : ℚ) * 2 ^ x) < (f.precision - 1 : ℕ) + 1 + x := by
    rw [log_lt_iff hPos, zpow_add₀ two_ne_zero, zpow_add₀ two_ne_zero, zpow_natCast, zpow_one]
    exact mul_lt_mul_of_pos_right hHigh' hPow
  omega

/-- A finite code is what the magnitude that it stands for is encoded as. -/
theorem encode_quotient {code : ℕ} (h : code < f.infinityCode) :
    f.encode (f.quotient code).1 (f.quotient code).2 = code := by
  have hBinade : 0 < f.binade := Nat.pow_pos two_pos
  have hRest : code % f.binade < f.binade := Nat.mod_lt _ hBinade
  have hCode : code / f.binade * f.binade + code % f.binade = code := Nat.div_add_mod' _ _
  simp only [quotient, decode, Nat.pow_eq]
  generalize code / f.binade = step at *
  split
  -- Subnormal codes count steps from zero, normal ones from the start of their binade.
  · next hStep =>
    rw [hStep, Nat.zero_mul, Nat.zero_add] at hCode
    rw [hCode] at hRest
    dsimp only
    rw [hCode]
    by_cases hZero : code = 0
    · simp [hZero, encode]
    · have hPos : 0 < code := Nat.pos_of_ne_zero hZero
      rw [f.encode_exact hZero (f.exponent_of_subnormal hPos hRest), Int.sub_self, Int.toNat_zero,
        Nat.zero_mul, Nat.zero_add]
      exact Nat.min_eq_left (Nat.le_of_lt h)
  · next hStep =>
    generalize hx : f.leastExponent + ((step - 1 : ℕ) : ℤ) = x
    have hExponent := f.exponent_of_normal (m := f.binade + code % f.binade) (x := x)
      (Nat.le_add_right _ _) (by omega) (by omega)
    have hSteps : (x - f.leastExponent).toNat * f.binade + f.binade = step * f.binade := by
      have hSucc : (x - f.leastExponent).toNat + 1 = step := by omega
      rw [← hSucc, Nat.succ_mul]
    dsimp only
    rw [f.encode_exact (by omega) hExponent]
    omega

end BinaryFormat

end GeoFilter.Number
