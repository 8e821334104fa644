import GeoFilter.Proofs.Printer.Number
import Mathlib

set_option autoImplicit false

/-! # Integers as doubles

A double holds every integer up to `2 ^ 53` and from there on only some of them. The text of the
double nearest to an integer is the text of an integer again, of one that has the same nearest
double. Up to `2 ^ 53` that is the integer itself. -/

namespace GeoFilter.Number

/-! ## Codes of natural numbers -/

/-- The code of the double nearest to a natural number. -/
def natCode (n : ℕ) : ℕ := binary64.encode n 1

theorem encode_nat (negative : Bool) (n : ℕ) :
    Decimal.encode binary64 ⟨negative, n, 0⟩ = natCode n := by
  by_cases hn : n = 0
  · simp [hn, Decimal.encode, natCode, BinaryFormat.encode]
  · have hModerate : Decimal.Moderate ⟨negative, n, 0⟩ := by
      refine ⟨hn, ?_, ?_⟩ <;> dsimp only <;> omega
    rw [Decimal.encode_of_moderate hModerate, Decimal.quotient_eq]
    simp [natCode]

/-- The magnitude with this code is a natural number. -/
def StandsFor (code n : ℕ) : Prop := (binary64.quotient code).1 = n * (binary64.quotient code).2

theorem standsFor_iff {code n : ℕ} : StandsFor code n ↔ (binary64.decode code).1
    * 2 ^ (binary64.decode code).2.toNat = n * 2 ^ (-(binary64.decode code).2).toNat := Iff.rfl

theorem den_pos (code : ℕ) : 0 < (binary64.quotient code).2 := Nat.pow_pos two_pos

theorem StandsFor.unique {code n n' : ℕ} (h : StandsFor code n) (h' : StandsFor code n') :
    n = n' := Nat.eq_of_mul_eq_mul_right (den_pos code) (h.symm.trans h')

theorem natCode_of_standsFor {code n : ℕ} (h : StandsFor code n)
    (hFinite : code < binary64.infinityCode) : natCode n = code := by
  rw [← binary64.encode_quotient hFinite, h, natCode,
    ← binary64.encode_mul_right one_pos (den_pos code), Nat.one_mul]

/-- A mantissa of full length and an exponent have a code. -/
theorem exists_code {m : ℕ} {x : ℤ} (hLow : 2 ^ 52 ≤ m) (hHigh : m < 2 ^ 53) (hx : -1074 ≤ x)
    (hx' : x ≤ 971) : ∃ code, code < binary64.infinityCode ∧ binary64.decode code = (m, x) := by
  have hBinade : binary64.binade = 2 ^ 52 := rfl
  have hInfinity := infinityCode_binary64
  have hLeast : binary64.leastExponent = -1074 := rfl
  refine ⟨(x + 1074).toNat * 2 ^ 52 + m, by omega, ?_⟩
  have hStep : ((x + 1074).toNat * 2 ^ 52 + m) / 2 ^ 52 = (x + 1074).toNat + 1 := by omega
  have hRest : ((x + 1074).toNat * 2 ^ 52 + m) % 2 ^ 52 = m - 2 ^ 52 := by omega
  rw [BinaryFormat.decode, hBinade, hStep, hRest, if_neg (Nat.succ_ne_zero _), hLeast]
  refine Prod.ext ?_ ?_ <;> dsimp only <;> omega

/-- A number is found again if it is a mantissa of full length with an exponent. -/
theorem natCode_of_value {n m : ℕ} {x : ℤ} (hLow : 2 ^ 52 ≤ m) (hHigh : m < 2 ^ 53)
    (hx : -1074 ≤ x) (hx' : x ≤ 971) (h : m * 2 ^ x.toNat = n * 2 ^ (-x).toNat) :
    natCode n < binary64.infinityCode ∧ StandsFor (natCode n) n := by
  obtain ⟨code, hFinite, hDecode⟩ := exists_code hLow hHigh hx hx'
  have hValue : StandsFor code n := by rwa [standsFor_iff, hDecode]
  rw [natCode_of_standsFor hValue hFinite]
  exact ⟨hFinite, hValue⟩

/-- Up to `2 ^ 53` the nearest double is the number itself. -/
theorem natCode_small {n : ℕ} (h : n ≤ 2 ^ 53) :
    natCode n < binary64.infinityCode ∧ StandsFor (natCode n) n := by
  by_cases hZero : n = 0
  · subst hZero
    have hZero : natCode 0 = 0 := rfl
    have hMantissa : (binary64.decode 0).1 = 0 := by decide
    refine ⟨by rw [hZero]; decide, ?_⟩
    rw [standsFor_iff, hZero, hMantissa, Nat.zero_mul, Nat.zero_mul]
  · have hLow := Nat.log2_self_le hZero
    have hHigh := Nat.lt_log2_self (n := n)
    by_cases hLog : n.log2 ≤ 52
    -- The number is shifted until its mantissa has full length.
    · have hShift : (2 : ℕ) ^ n.log2 * 2 ^ (52 - n.log2) = 2 ^ 52 := by
        rw [← Nat.pow_add, Nat.add_sub_cancel' hLog]
      refine natCode_of_value (m := n * 2 ^ (52 - n.log2)) (x := -((52 - n.log2 : ℕ) : ℤ))
        ?_ ?_ (by omega) (by omega) ?_
      · rw [← hShift]
        exact Nat.mul_le_mul_right _ hLow
      · calc n * 2 ^ (52 - n.log2) < 2 ^ (n.log2 + 1) * 2 ^ (52 - n.log2) :=
              Nat.mul_lt_mul_of_pos_right hHigh (Nat.pow_pos two_pos)
          _ = 2 ^ 53 := by rw [Nat.pow_succ', Nat.mul_assoc, hShift]; rfl
      · have hWhole : (-((52 - n.log2 : ℕ) : ℤ)).toNat = 0 := by omega
        rw [hWhole, Int.neg_neg, Int.toNat_natCast, Nat.pow_zero, Nat.mul_one]
    · obtain rfl : n = 2 ^ 53 := by
        refine Nat.le_antisymm h (Nat.le_trans (Nat.pow_le_pow_right two_pos ?_) hLow)
        omega
      exact natCode_of_value (m := 2 ^ 52) (x := 1) (by decide) (by decide) (by decide) (by decide)
        rfl

theorem roundHalfEven_bounds (num den : ℕ) :
    num / den ≤ roundHalfEven num den ∧ roundHalfEven num den ≤ num / den + 1 := by
  unfold roundHalfEven
  dsimp only
  split
  · omega
  · split <;> omega

/-- The code of a number with more bits than a mantissa: the bits that are left over count the
    binades, and the others are rounded. -/
theorem natCode_eq {n : ℕ} (h : 2 ^ 53 ≤ n) : ∃ r, 2 ^ 52 ≤ r ∧ r ≤ 2 ^ 53 ∧
    natCode n = min ((n.log2 - 52 + 1074) * 2 ^ 52 + r) binary64.infinityCode := by
  have hne : n ≠ 0 := by omega
  have hLog : 53 ≤ n.log2 := (Nat.le_log2 hne).2 h
  have hLow := Nat.log2_self_le hne
  have hHigh := Nat.lt_log2_self (n := n)
  have hFloor : floorLog2 n 1 = n.log2 := by
    rw [floorLog2_eq (Nat.pos_of_ne_zero hne) one_pos, Nat.cast_one, div_one, Int.log_natCast,
      Nat.log2_eq_log_two]
  have hExponent : max (floorLog2 n 1 - (binary64.precision - 1 : ℕ)) binary64.leastExponent
      = ((n.log2 - 52 : ℕ) : ℤ) := by
    rw [hFloor]
    show max ((n.log2 : ℤ) - 52) (-1074) = _
    omega
  have hPower : (2 : ℕ) ^ 52 * 2 ^ (n.log2 - 52) = 2 ^ n.log2 := by
    rw [← Nat.pow_add]
    congr 1
    omega
  have hPos : 0 < 2 ^ (n.log2 - 52) := Nat.pow_pos two_pos
  have hBits : 2 ^ 52 ≤ n / 2 ^ (n.log2 - 52) := by
    rw [Nat.le_div_iff_mul_le hPos, hPower]
    exact hLow
  have hBits' : n / 2 ^ (n.log2 - 52) < 2 ^ 53 := by
    rw [Nat.div_lt_iff_lt_mul hPos, Nat.pow_succ', Nat.mul_assoc, hPower, ← Nat.pow_succ']
    exact hHigh
  obtain ⟨hRoundLow, hRoundHigh⟩ := roundHalfEven_bounds n (2 ^ (n.log2 - 52))
  refine ⟨roundHalfEven n (2 ^ (n.log2 - 52)), by omega, by omega, ?_⟩
  have hSteps : (((n.log2 - 52 : ℕ) : ℤ) - binary64.leastExponent).toNat = n.log2 - 52 + 1074 := by
    show (((n.log2 - 52 : ℕ) : ℤ) - -1074).toNat = _
    omega
  have hScaled : scaleDown 2 n 1 ((n.log2 - 52 : ℕ) : ℤ) = (n, 2 ^ (n.log2 - 52)) := by
    have hZero : (-((n.log2 - 52 : ℕ) : ℤ)).toNat = 0 := by omega
    rw [scaleDown, hZero, Int.toNat_natCast, Nat.pow_eq, Nat.pow_eq, Nat.pow_zero, Nat.mul_one,
      Nat.one_mul]
  rw [natCode, BinaryFormat.encode, if_neg hne, hExponent]
  dsimp only
  rw [hSteps, hScaled]
  rfl

/-- From `2 ^ 53` on a double has no fraction. -/
theorem natCode_large {n : ℕ} (h : 2 ^ 53 ≤ n) (hFinite : natCode n < binary64.infinityCode) :
    0 ≤ (binary64.decode (natCode n)).2 ∧ ∃ N, 2 ^ 53 ≤ N ∧ StandsFor (natCode n) N := by
  obtain ⟨r, hLow, -, hCode⟩ := natCode_eq h
  have hLog : 53 ≤ n.log2 := (Nat.le_log2 (by omega)).2 h
  have hBinade : binary64.binade = 2 ^ 52 := rfl
  have hLeast : binary64.leastExponent = -1074 := rfl
  have hStep : 1076 ≤ natCode n / 2 ^ 52 := by omega
  generalize natCode n = code at *
  -- The exponent is at least one, and the mantissa has full length.
  have hDecode : binary64.decode code
      = (2 ^ 52 + code % 2 ^ 52, ((code / 2 ^ 52 - 1075 : ℕ) : ℤ)) := by
    rw [BinaryFormat.decode, hBinade, if_neg (by omega), hLeast]
    refine Prod.ext rfl ?_
    dsimp only
    omega
  rw [hDecode]
  refine ⟨Int.natCast_nonneg _, (2 ^ 52 + code % 2 ^ 52) * 2 ^ (code / 2 ^ 52 - 1075), ?_, ?_⟩
  · calc 2 ^ 53 = 2 ^ 52 * 2 ^ 1 := rfl
      _ ≤ (2 ^ 52 + code % 2 ^ 52) * 2 ^ (code / 2 ^ 52 - 1075) :=
        Nat.mul_le_mul (Nat.le_add_right _ _) (Nat.pow_le_pow_right two_pos (by omega))
  · have hZero : (-((code / 2 ^ 52 - 1075 : ℕ) : ℤ)).toNat = 0 := by omega
    simp only [standsFor_iff, hDecode, hZero, Int.toNat_natCast, Nat.pow_zero, Nat.mul_one]

/-- Numbers of 64 bits have finite doubles. -/
theorem natCode_finite {n : ℕ} (h : n < 2 ^ 64) : natCode n < binary64.infinityCode := by
  by_cases hSmall : n ≤ 2 ^ 53
  · exact (natCode_small hSmall).1
  · obtain ⟨r, -, hHigh, hCode⟩ := natCode_eq (n := n) (by omega)
    have hLog : n.log2 < 64 := (Nat.log2_lt (by omega)).2 h
    have hInfinity := infinityCode_binary64
    omega

/-! ## The shortest digits of a natural number -/

section

variable {code n : ℕ}

theorem StandsFor.pos (h : StandsFor code n) (hZero : code ≠ 0) : 0 < n := by
  have hNum : (binary64.quotient code).1 ≠ 0 :=
    Nat.mul_ne_zero (decode_ne_zero hZero) (Nat.ne_of_gt (Nat.pow_pos two_pos))
  rw [h] at hNum
  exact Nat.pos_of_ne_zero (left_ne_zero_of_mul hNum)

theorem StandsFor.floorLog2 (h : StandsFor code n) (hZero : code ≠ 0) :
    floorLog2 (binary64.quotient code).1 (binary64.quotient code).2 = n.log2 := by
  have hDen := den_pos code
  have hDen' : ((binary64.quotient code).2 : ℚ) ≠ 0 := Nat.cast_ne_zero.2 (Nat.ne_of_gt hDen)
  rw [h, floorLog2_eq (Nat.mul_pos (h.pos hZero) hDen) hDen, Nat.cast_mul,
    mul_div_cancel_right₀ _ hDen', Int.log_natCast, Nat.log2_eq_log_two]

/-- The first digit of a natural number is no fraction, and a mantissa has at most seventeen
    digits. -/
theorem StandsFor.floorLog10 (h : StandsFor code n) (hZero : code ≠ 0) :
    0 ≤ floorLog10 (binary64.quotient code).1 (binary64.quotient code).2 ∧
      (n < 2 ^ 53 →
        floorLog10 (binary64.quotient code).1 (binary64.quotient code).2 ≤ 16) := by
  have hPos := h.pos hZero
  have hOne : (binary64.quotient code).2 ≤ (binary64.quotient code).1 := by
    rw [h]
    exact Nat.le_mul_of_pos_left _ hPos
  have hSmall : n < 2 ^ 53 → n.log2 < 53 := fun hn => (Nat.log2_lt (Nat.ne_of_gt hPos)).2 hn
  unfold Number.floorLog10
  rw [h.floorLog2 hZero]
  dsimp only
  split
  · next hLess =>
    -- The guess is not zero, as one is not greater than the number.
    have hGuess : (n.log2 : ℤ) * 30103 / 100000 ≠ 0 := by
      intro hGuess
      rw [hGuess] at hLess
      simp only [scaleDown, Nat.pow_eq, Int.neg_zero, Int.toNat_zero, Nat.pow_zero,
        Nat.mul_one] at hLess
      omega
    omega
  · split <;> omega

/-- There is a neighbour on a grid if the one below reads back. -/
theorem exists_gridNeighbour {num den : ℕ} {e : ℤ} (h : readsBack code
      ((scaleDown 10 num den e).1 / (scaleDown 10 num den e).2) e = true) :
    ∃ digits, gridNeighbour .up code num den e = some digits := by
  unfold gridNeighbour
  dsimp only
  rw [h]
  cases readsBack code ((scaleDown 10 num den e).1 / (scaleDown 10 num den e).2 + 1) e
  · exact ⟨_, rfl⟩
  · dsimp only
    split
    · exact ⟨_, rfl⟩
    · split <;> exact ⟨_, rfl⟩

/-- On the grid of whole numbers the number itself is hit. -/
theorem StandsFor.gridNeighbour (h : StandsFor code n) (hFinite : code < binary64.infinityCode) :
    ∃ digits, gridNeighbour .up code (binary64.quotient code).1 (binary64.quotient code).2 0
      = some digits := by
  have hCode := natCode_of_standsFor h hFinite
  have hDen := den_pos code
  rw [StandsFor] at h
  refine exists_gridNeighbour ?_
  generalize binary64.quotient code = q at *
  have hScaled : scaleDown 10 q.1 q.2 0 = q := by simp [scaleDown]
  rw [hScaled, h, Nat.mul_div_cancel _ hDen, readsBack, encode_nat, hCode, decide_eq_true_eq]

/-- A natural number whose double has an exponent below zero is less than a mantissa can be. -/
theorem StandsFor.exponent (h : StandsFor code n) (hFinite : code < binary64.infinityCode) :
    0 ≤ (binary64.decode code).2 ∨ n < 2 ^ 53 := by
  obtain ⟨hMantissa, -, -⟩ := decode_bounds hFinite
  rw [standsFor_iff] at h
  by_cases hExponent : 0 ≤ (binary64.decode code).2
  · exact .inl hExponent
  · have hZero : (binary64.decode code).2.toNat = 0 := by omega
    rw [hZero, Nat.pow_zero, Nat.mul_one] at h
    refine .inr (Nat.lt_of_le_of_lt ?_ hMantissa)
    rw [h]
    exact Nat.le_mul_of_pos_right n (Nat.pow_pos two_pos)

/-- A number that is less than one in a list of ascending numbers comes before it there. -/
theorem mem_before_of_lt {before after : List ℕ} {i j m : ℕ}
    (h : List.range m = before ++ i :: after) (hLess : j < i) : j ∈ before := by
  have hSorted := h ▸ List.pairwise_lt_range (n := m)
  obtain ⟨-, hSorted, -⟩ := List.pairwise_append.1 hSorted
  have hi : i ∈ List.range m := by simp [h]
  have hj : j ∈ before ++ i :: after := by
    rw [← h, List.mem_range]
    exact Nat.lt_trans hLess (List.mem_range.1 hi)
  rcases List.mem_append.1 hj with hj | hj
  · exact hj
  · rcases List.mem_cons.1 hj with rfl | hj
    · exact absurd hLess (Nat.lt_irrefl _)
    · exact absurd hLess (Nat.lt_asymm ((List.pairwise_cons.1 hSorted).1 j hj))

/-- The shortest digits of a natural number spell a natural number. -/
theorem StandsFor.shortest (h : StandsFor code n) (hFinite : code < binary64.infinityCode) :
    0 ≤ (shortest .up code).2 := by
  unfold Number.shortest
  split
  · exact le_refl _
  · next hZero =>
    obtain ⟨hFirst, hSmall⟩ := h.floorLog10 hZero
    obtain ⟨digits, hGrid⟩ := h.gridNeighbour hFinite
    have hExponent := h.exponent hFinite
    dsimp only
    generalize Number.floorLog10 (binary64.quotient code).1 (binary64.quotient code).2 = first at *
    generalize hHit : List.findSome? _ (List.range 17) = hit
    -- The grid of whole numbers is among those that are tried, unless all of them are coarser.
    cases hit with
    | none =>
      rw [List.findSome?_eq_none_iff] at hHit
      have hLarge : 16 < first := by
        by_contra hFew
        have hMiss := hHit first.toNat (List.mem_range.2 (by omega))
        have hWhole : first - (first.toNat : ℤ) = 0 := by omega
        rw [hWhole, hGrid] at hMiss
        exact nomatch hMiss
      have hWhole : ¬ (binary64.decode code).2 < 0 := by omega
      rw [Option.getD_none, exactDecimal]
      dsimp only
      rw [if_neg hWhole]
    | some decimal =>
      obtain ⟨before, i, after, hRange, hi, hBefore⟩ := List.findSome?_eq_some_iff.1 hHit
      have hCoarse : (i : ℤ) ≤ first := by
        by_contra hFine
        have hMiss := hBefore first.toNat (mem_before_of_lt hRange (by omega))
        have hWhole : first - (first.toNat : ℤ) = 0 := by omega
        rw [hWhole, hGrid] at hMiss
        exact nomatch hMiss
      obtain ⟨digits, -, rfl⟩ := Option.map_eq_some_iff.1 hi
      rw [Option.getD_some]
      split <;> dsimp only <;> omega

end

/-! ## Natural numbers that are spelled -/

/-- The natural number that the shortest digits of the nearest double spell. -/
def spelledNat (n : ℕ) : ℕ :=
  (shortest .up (natCode n)).1 * 10 ^ (shortest .up (natCode n)).2.toNat

section

variable {n : ℕ}

theorem exists_standsFor (h : natCode n < binary64.infinityCode) :
    ∃ N, StandsFor (natCode n) N := by
  by_cases hSmall : n ≤ 2 ^ 53
  · exact ⟨n, (natCode_small hSmall).2⟩
  · obtain ⟨-, N, -, hN⟩ := natCode_large (by omega) h
    exact ⟨N, hN⟩

theorem natCode_ne_zero (h : n ≠ 0) : natCode n ≠ 0 := by
  intro hCode
  have hZero : StandsFor 0 0 := (natCode_small (Nat.zero_le _)).2
  by_cases hSmall : n ≤ 2 ^ 53
  · have hValue := (natCode_small hSmall).2
    rw [hCode] at hValue
    exact h (hValue.unique hZero)
  · obtain ⟨-, N, hN, hValue⟩ := natCode_large (n := n) (by omega) (by rw [hCode]; decide)
    rw [hCode] at hValue
    obtain rfl := hValue.unique hZero
    exact absurd hN (by decide)

theorem natCode_spelledNat (h : natCode n < binary64.infinityCode) :
    natCode (spelledNat n) = natCode n := by
  obtain ⟨N, hN⟩ := exists_standsFor h
  have hWhole := hN.shortest h
  have hZero : -((-(shortest .up (natCode n)).2).toNat : ℤ) = 0 := by omega
  have hSpelled := encode_spelled (shortest_readsBack h) h
  rwa [hZero, encode_nat] at hSpelled

/-- Up to `2 ^ 53` the digits of a number are its own. -/
theorem spelledNat_small (h : n ≤ 2 ^ 53) : spelledNat n = n := by
  obtain ⟨hFinite, hValue⟩ := natCode_small h
  have hCode := natCode_spelledNat hFinite
  by_cases hSmall : spelledNat n ≤ 2 ^ 53
  · have hSpelled := (natCode_small hSmall).2
    rw [hCode] at hSpelled
    exact hSpelled.unique hValue
  -- A greater number can only have the double of the bound itself, whose digits are known.
  · obtain ⟨-, N, hN, hSpelled⟩ := natCode_large (n := spelledNat n) (by omega) (hCode ▸ hFinite)
    rw [hCode] at hSpelled
    obtain rfl := hSpelled.unique hValue
    obtain rfl : N = 2 ^ 53 := Nat.le_antisymm h hN
    decide +kernel

theorem spelledNat_ne_zero (h : n ≠ 0) (hFinite : natCode n < binary64.infinityCode) :
    spelledNat n ≠ 0 := by
  have hReads := shortest_readsBack hFinite
  have hModerate := Decimal.moderate_of_encode hReads (natCode_ne_zero h) hFinite
  exact Nat.mul_ne_zero hModerate.ne_zero (Nat.ne_of_gt (Nat.pow_pos (by decide)))

/-- Zeros after the digits of a number multiply it by ten. -/
theorem toDigits_mul_pow {d : ℕ} (hd : 0 < d) (k : ℕ) :
    Nat.toDigits 10 (d * 10 ^ k) = Nat.toDigits 10 d ++ List.replicate k '0' := by
  induction k with
  | zero => simp
  | succ k ih =>
    have hPos : 0 < d * 10 ^ k := Nat.mul_pos hd (Nat.pow_pos (by decide))
    have hZero := Nat.toDigits_append_toDigits (b := 10) (d := 0) (by decide) hPos (by decide)
    rw [Nat.pow_succ', Nat.mul_left_comm, ← Nat.add_zero (10 * (d * 10 ^ k)), ← hZero, ih,
      List.append_assoc, List.replicate_succ']
    rfl

theorem magnitudeText_natCode (h : natCode n < binary64.infinityCode) :
    magnitudeText (natCode n) = Nat.toDigits 10 (spelledNat n) := by
  by_cases hZero : n = 0
  · subst hZero
    decide +kernel
  · obtain ⟨N, hN⟩ := exists_standsFor h
    have hWhole := hN.shortest h
    have hReads := shortest_readsBack h
    have hModerate := Decimal.moderate_of_encode hReads (natCode_ne_zero hZero) h
    rw [magnitudeText, spelledNat, toDigits_mul_pow (Nat.pos_of_ne_zero hModerate.ne_zero)]
    dsimp only
    rw [layOut, if_pos hWhole]

end

/-! ## Integers that are spelled -/

/-- The integer that the text of the nearest double spells. -/
def spelled (n : ℤ) : ℤ := n.sign * spelledNat n.natAbs

section

variable {n : ℤ}

theorem ofInt_eq (n : ℤ) : ofInt n = ofCode (decide (n < 0)) (natCode n.natAbs) := by
  rw [ofInt, Decimal.toFloat, Decimal.ofInt, encode_nat]

theorem natAbs_spelled (n : ℤ) : (spelled n).natAbs = spelledNat n.natAbs := by
  by_cases hZero : n = 0
  · subst hZero
    exact (spelledNat_small (Nat.zero_le _)).symm
  · rw [spelled, Int.natAbs_mul, Int.natAbs_sign_of_ne_zero hZero, Int.natAbs_natCast, Nat.one_mul]

theorem spelled_lt_zero_iff (h : natCode n.natAbs < binary64.infinityCode) :
    spelled n < 0 ↔ n < 0 := by
  by_cases hZero : n = 0
  · subst hZero
    exact Iff.rfl
  · have hPos : (0 : ℤ) < spelledNat n.natAbs := by
      have hNe := spelledNat_ne_zero (Int.natAbs_ne_zero.2 hZero) h
      omega
    rw [spelled]
    rcases Int.lt_or_gt_of_ne hZero with hNegative | hPositive
    · rw [Int.sign_eq_neg_one_of_neg hNegative]
      omega
    · rw [Int.sign_eq_one_of_pos hPositive]
      omega

/-- The text of the nearest double spells an integer that has the same nearest double. -/
theorem ofInt_spelled (h : natCode n.natAbs < binary64.infinityCode) :
    ofInt (spelled n) = ofInt n := by
  rw [ofInt_eq, ofInt_eq, natAbs_spelled, natCode_spelledNat h]
  congr 1
  exact decide_eq_decide.2 (spelled_lt_zero_iff h)

/-- Up to `2 ^ 53` the text spells the integer itself. -/
theorem spelled_small (h : n.natAbs ≤ 2 ^ 53) : spelled n = n := by
  rw [spelled, spelledNat_small h, Int.sign_mul_natAbs]

theorem isNegative_ofCode {negative : Bool} {c : ℕ} (h : c < binary64.infinityCode) :
    isNegative (ofCode negative c) = negative := by
  have hInfinity := infinityCode_binary64
  rw [isNegative, toNat_ofCode h, bitsOf_eq]
  cases negative
  · rw [Bool.toNat_false, decide_eq_false]
    omega
  · rw [Bool.toNat_true, decide_eq_true]
    omega

/-- The text of the double nearest to an integer is the text of an integer. -/
theorem canonical_ofInt (h : natCode n.natAbs < binary64.infinityCode) :
    canonical (ofInt n) = toString (spelled n) := by
  have hNegative : ofInt n < 0 ↔ spelled n < 0 := by
    rw [spelled_lt_zero_iff h, ofInt_eq, lt_zero_iff (isFinite_ofCode h), isNegative_ofCode h,
      code_ofCode h, decide_eq_true_eq]
    refine and_iff_left_of_imp fun hn => natCode_ne_zero ?_
    exact Int.natAbs_ne_zero.2 (Int.ne_of_lt hn)
  have hText : (canonical (ofInt n)).toList = if spelled n < 0
      then '-' :: Nat.toDigits 10 (spelled n).natAbs else Nat.toDigits 10 (spelled n).natAbs := by
    have hFinite : (ofInt n).isFinite = true := by
      rw [ofInt_eq]
      exact isFinite_ofCode h
    have hCode : code (ofInt n) = natCode n.natAbs := by rw [ofInt_eq, code_ofCode h]
    rw [toList_canonical hFinite, if_congr hNegative rfl rfl, hCode, magnitudeText_natCode h,
      natAbs_spelled]
  rw [← String.toList_inj, hText, Int.toString_eq_repr, Int.repr_eq_if]
  by_cases hLess : spelled n < 0
  · have hAbs : (-spelled n).toNat = (spelled n).natAbs := by omega
    rw [if_pos hLess, if_neg (Int.not_le.2 hLess), hAbs, Nat.repr_eq_ofList_toDigits,
      String.toList_append, String.toList_ofList, String.toList_ofList]
    rfl
  · have hAbs : (spelled n).toNat = (spelled n).natAbs := by omega
    rw [if_neg hLess, if_pos (Int.not_lt.1 hLess), hAbs, Nat.repr_eq_ofList_toDigits,
      String.toList_ofList]

theorem toString_inj {i j : ℤ} : toString i = toString j ↔ i = j := by
  rw [Int.toString_eq_repr, Int.toString_eq_repr, Int.repr_inj]

/-- The texts of two integers agree exactly if their nearest doubles do. -/
theorem spelled_eq_iff {n' : ℤ} (h : natCode n.natAbs < binary64.infinityCode)
    (h' : natCode n'.natAbs < binary64.infinityCode) :
    spelled n = spelled n' ↔ ofInt n = ofInt n' := by
  constructor
  · intro hSpelled
    rw [← ofInt_spelled h, hSpelled, ofInt_spelled h']
  · intro hDouble
    rw [← toString_inj, ← canonical_ofInt h, hDouble, canonical_ofInt h']

end

end GeoFilter.Number
