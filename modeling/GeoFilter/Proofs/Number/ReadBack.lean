import GeoFilter.Number.Text
import GeoFilter.Proofs.Number.Rounding

set_option autoImplicit false

/-! # Number text reads back

The shortest decimal of a finite magnitude is encoded as the code it came from, because every
candidate is checked and the full expansion, which closes the search, is exact. Laid out around a
point it is read as a decimal of the same value. -/

namespace GeoFilter.Number

/-! ## Decimals that are encoded without a limit -/

/-- A decimal that is neither written off as zero nor as infinite. -/
structure Decimal.Moderate (d : Decimal) : Prop where
  ne_zero : d.digits ≠ 0
  le : d.exponent ≤ 400
  ge : -400 ≤ d.exponent + d.digits.log2

theorem Decimal.encode_of_moderate {d : Decimal} (h : d.Moderate) (f : BinaryFormat) :
    d.encode f = f.encode d.quotient.1 d.quotient.2 := by
  unfold Decimal.encode
  rw [if_neg h.ne_zero, if_neg (Int.not_lt.2 h.le), if_neg (Int.not_lt.2 h.ge)]

theorem Decimal.moderate_of_encode {d : Decimal} {f : BinaryFormat} {code : ℕ}
    (h : d.encode f = code) (hZero : code ≠ 0) (hFinite : code < f.infinityCode) :
    d.Moderate := by
  unfold Decimal.encode at h
  split at h
  · exact absurd h.symm hZero
  · next hDigits =>
    split at h
    · exact absurd h.symm (Nat.ne_of_lt hFinite)
    · next hHigh =>
      split at h
      · exact absurd h.symm hZero
      · next hLow => exact ⟨hDigits, Int.not_lt.1 hHigh, Int.not_lt.1 hLow⟩

/-- Decimals with the same quotient are encoded alike. -/
theorem Decimal.encode_eq_of_quotient {d d' : Decimal} (h : d.Moderate) (h' : d'.Moderate)
    (hQuotient : d.quotient = d'.quotient) (f : BinaryFormat) : d.encode f = d'.encode f := by
  rw [encode_of_moderate h, encode_of_moderate h', hQuotient]

theorem Decimal.quotient_eq (negative : Bool) (digits : ℕ) (exponent : ℤ) :
    Decimal.quotient ⟨negative, digits, exponent⟩
      = (digits * 10 ^ exponent.toNat, 10 ^ (-exponent).toNat) := by
  simp only [Decimal.quotient, scaleDown, Nat.pow_eq]
  rw [Int.neg_neg, Nat.one_mul]

/-- A power of ten is a one with a greater exponent. -/
theorem Decimal.encode_ten_pow {negative : Bool} {k : ℕ} {e : ℤ}
    (h : Decimal.Moderate ⟨negative, 10 ^ k, e⟩) (h' : Decimal.Moderate ⟨negative, 1, e + k⟩)
    (f : BinaryFormat) :
    Decimal.encode f ⟨negative, 1, e + k⟩ = Decimal.encode f ⟨negative, 10 ^ k, e⟩ := by
  rw [encode_of_moderate h, encode_of_moderate h', quotient_eq, quotient_eq]
  -- Zeros cancel up to where the exponents change sign.
  generalize hCommon : (-e).toNat - (-(e + k)).toNat = common
  have hNum : 10 ^ k * 10 ^ e.toNat = 1 * 10 ^ (e + k).toNat * 10 ^ common := by
    rw [Nat.one_mul, ← Nat.pow_add, ← Nat.pow_add]
    congr 1
    omega
  have hDen : 10 ^ (-e).toNat = 10 ^ (-(e + k)).toNat * 10 ^ common := by
    rw [← Nat.pow_add]
    congr 1
    omega
  rw [hNum, hDen]
  exact (f.encode_mul_right (Nat.pow_pos (by decide)) (Nat.pow_pos (by decide))).symm

/-! ## The size of a double -/

theorem quotient_value (f : BinaryFormat) (code : ℕ) :
    ((f.quotient code).1 : ℚ) / (f.quotient code).2
      = (f.decode code).1 * 2 ^ (f.decode code).2 := by
  simp only [BinaryFormat.quotient, Nat.pow_eq]
  rw [zpow_eq_div, ← mul_div_assoc]
  push_cast
  rfl

theorem decode_ne_zero {f : BinaryFormat} {code : ℕ} (h : code ≠ 0) : (f.decode code).1 ≠ 0 := by
  have hCode : code / f.binade * f.binade + code % f.binade = code := Nat.div_add_mod' _ _
  have hBinade : 0 < f.binade := Nat.pow_pos two_pos
  unfold BinaryFormat.decode
  dsimp only
  split
  · next hStep =>
    rw [hStep, Nat.zero_mul, Nat.zero_add] at hCode
    omega
  · dsimp only
    omega

/-- Infinity has all bits of the exponent and none of the mantissa. -/
theorem infinityCode_binary64 : binary64.infinityCode = 2047 * 2 ^ 52 := rfl

/-- The mantissa and the exponent of a finite double are bounded. -/
theorem decode_bounds {code : ℕ} (h : code < binary64.infinityCode) :
    (binary64.decode code).1 < 2 ^ 53 ∧ -1074 ≤ (binary64.decode code).2 ∧
      (binary64.decode code).2 ≤ 971 := by
  have hBinade : binary64.binade = 2 ^ 52 := rfl
  have hInfinity := infinityCode_binary64
  have hLeast : binary64.leastExponent = -1074 := rfl
  have hRest : code % binary64.binade < binary64.binade := Nat.mod_lt _ (by decide)
  have hStep : code / binary64.binade < 2047 := by
    rw [hBinade]
    omega
  unfold BinaryFormat.decode
  dsimp only
  split
  · refine ⟨?_, ?_, ?_⟩ <;> dsimp only <;> omega
  · refine ⟨?_, ?_, ?_⟩ <;> dsimp only <;> omega

theorem floorLog2_bounds {code : ℕ} (hZero : code ≠ 0) (h : code < binary64.infinityCode) :
    -1074 ≤ floorLog2 (binary64.quotient code).1 (binary64.quotient code).2 ∧
      floorLog2 (binary64.quotient code).1 (binary64.quotient code).2 < 1024 := by
  obtain ⟨hMantissa, hLow, hHigh⟩ := decode_bounds h
  have hNe := decode_ne_zero (f := binary64) hZero
  have hNum : 0 < (binary64.quotient code).1 :=
    Nat.mul_pos (Nat.pos_of_ne_zero hNe) (Nat.pow_pos two_pos)
  have hDen : 0 < (binary64.quotient code).2 := Nat.pow_pos two_pos
  rw [floorLog2_eq hNum hDen, quotient_value]
  generalize (binary64.decode code).1 = m at *
  generalize (binary64.decode code).2 = x at *
  have hOne : (1 : ℚ) ≤ m := by exact_mod_cast Nat.pos_of_ne_zero hNe
  have hMantissa' : (m : ℚ) < 2 ^ (53 : ℤ) := by exact_mod_cast hMantissa
  have hPow : (0 : ℚ) < 2 ^ x := zpow_pos two_pos _
  have hPos : (0 : ℚ) < m * 2 ^ x := mul_pos (lt_of_lt_of_le one_pos hOne) hPow
  rw [le_log_iff hPos, log_lt_iff hPos]
  constructor
  · calc (2 : ℚ) ^ (-1074 : ℤ) ≤ 2 ^ x := zpow_le_zpow_right₀ one_le_two hLow
      _ = 1 * 2 ^ x := (one_mul _).symm
      _ ≤ m * 2 ^ x := mul_le_mul_of_nonneg_right hOne (le_of_lt hPow)
  · calc (m : ℚ) * 2 ^ x < 2 ^ (53 : ℤ) * 2 ^ x := mul_lt_mul_of_pos_right hMantissa' hPow
      _ ≤ 2 ^ (53 : ℤ) * 2 ^ (971 : ℤ) :=
        mul_le_mul_of_nonneg_left (zpow_le_zpow_right₀ one_le_two hHigh)
          (le_of_lt (zpow_pos two_pos _))
      _ = 2 ^ (1024 : ℤ) := by
        rw [← zpow_add₀ two_ne_zero]
        norm_num

theorem floorLog10_bounds {code : ℕ} (hZero : code ≠ 0) (h : code < binary64.infinityCode) :
    -326 ≤ floorLog10 (binary64.quotient code).1 (binary64.quotient code).2 ∧
      floorLog10 (binary64.quotient code).1 (binary64.quotient code).2 ≤ 309 := by
  obtain ⟨hLow, hHigh⟩ := floorLog2_bounds hZero h
  unfold floorLog10
  dsimp only
  split
  · omega
  · split <;> omega

/-! ## The shortest decimal -/

theorem gridNeighbour_readsBack {code num den digits : ℕ} {e : ℤ}
    (h : gridNeighbour .up code num den e = some digits) :
    Decimal.encode binary64 ⟨false, digits, e⟩ = code := by
  -- Every branch returns a neighbour that was just tested.
  have hReads : readsBack code digits e = true := by
    unfold gridNeighbour at h
    dsimp only at h
    split at h
    · exact absurd h (by simp)
    · next hLow _ =>
      obtain rfl := Option.some.inj h
      exact hLow
    · next _ hHigh =>
      obtain rfl := Option.some.inj h
      exact hHigh
    · next hLow hHigh =>
      split at h
      · obtain rfl := Option.some.inj h
        exact hLow
      · split at h <;>
        · obtain rfl := Option.some.inj h
          exact hHigh
  exact of_decide_eq_true hReads

theorem le_log2_five_pow (k : ℕ) {m : ℕ} (hm : m ≠ 0) : 2 * k ≤ (m * 5 ^ k).log2 := by
  rw [Nat.le_log2 (Nat.mul_ne_zero hm (Nat.ne_of_gt (Nat.pow_pos (by decide))))]
  -- Each factor five is worth more than two bits.
  calc 2 ^ (2 * k) = 4 ^ k := by rw [Nat.pow_mul]
    _ ≤ 5 ^ k := Nat.pow_le_pow_left (by decide) k
    _ ≤ m * 5 ^ k := Nat.le_mul_of_pos_left _ (Nat.pos_of_ne_zero hm)

theorem exactDecimal_readsBack {code : ℕ} (hZero : code ≠ 0) (h : code < binary64.infinityCode) :
    Decimal.encode binary64 ⟨false, (exactDecimal code).1, (exactDecimal code).2⟩ = code := by
  have hNe := decode_ne_zero (f := binary64) hZero
  have hExact := binary64.encode_quotient h
  simp only [BinaryFormat.quotient, Nat.pow_eq] at hExact
  simp only [exactDecimal, Nat.pow_eq]
  generalize (binary64.decode code).1 = m at *
  generalize (binary64.decode code).2 = x at *
  split
  · next hNegative =>
    -- Written out, a fraction of twos is one of tens with as many fives in the numerator.
    have hLog := le_log2_five_pow (-x).toNat hNe
    have hModerate : Decimal.Moderate ⟨false, m * 5 ^ (-x).toNat, x⟩ := by
      refine ⟨Nat.mul_ne_zero hNe (by positivity), ?_, ?_⟩ <;> dsimp only <;> omega
    have hWhole : x.toNat = 0 := by omega
    dsimp only
    rw [Decimal.encode_of_moderate hModerate, Decimal.quotient_eq, hWhole, Nat.pow_zero,
      Nat.mul_one, show 10 = 2 * 5 from rfl, Nat.mul_pow,
      binary64.encode_mul_right (by positivity) (by positivity)]
    rwa [hWhole, Nat.pow_zero, Nat.mul_one] at hExact
  · next hWhole =>
    have hModerate : Decimal.Moderate ⟨false, m * 2 ^ x.toNat, 0⟩ := by
      refine ⟨Nat.mul_ne_zero hNe (by positivity), ?_, ?_⟩ <;> dsimp only <;> omega
    have hFraction : (-x).toNat = 0 := by omega
    dsimp only
    rw [Decimal.encode_of_moderate hModerate, Decimal.quotient_eq]
    rw [hFraction] at hExact
    simpa using hExact

theorem shortest_readsBack {code : ℕ} (h : code < binary64.infinityCode) :
    Decimal.encode binary64 ⟨false, (shortest .up code).1, (shortest .up code).2⟩ = code := by
  unfold shortest
  -- A power of ten is reported as the digit one, with a greater exponent.
  split
  · next hZero => simp [hZero, Decimal.encode]
  · next hZero =>
    obtain ⟨hLow, hHigh⟩ := floorLog10_bounds hZero h
    dsimp only
    generalize floorLog10 (binary64.quotient code).1 (binary64.quotient code).2 = first at *
    generalize hHit : List.findSome? _ (List.range 17) = hit
    cases hit with
    | none => exact exactDecimal_readsBack hZero h
    | some decimal =>
      obtain ⟨i, -, hi⟩ := List.exists_of_findSome?_eq_some hHit
      obtain ⟨digits, hDigits, rfl⟩ := Option.map_eq_some_iff.1 hi
      have hReads := gridNeighbour_readsBack hDigits
      rw [Option.getD_some]
      split
      · next hTen =>
        rw [hTen, Nat.pow_eq] at hReads
        have hModerate := Decimal.moderate_of_encode hReads hZero h
        have hOne : Decimal.Moderate ⟨false, 1, first - i + (i + 1 : ℕ)⟩ := by
          refine ⟨one_ne_zero, ?_, ?_⟩ <;> dsimp only <;> omega
        dsimp only
        rw [Decimal.encode_ten_pow hModerate hOne, hReads]
      · exact hReads

end GeoFilter.Number
