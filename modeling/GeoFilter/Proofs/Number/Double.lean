import GeoFilter.Proofs.Number.ReadBack

set_option autoImplicit false

/-! # Finite doubles and their codes

A finite double is a sign and a code. Unpacking the bits of one gives the sign, the mantissa and
the exponent that the code stands for, and packing these gives the bits back; negation and the
comparisons are then those of signs and codes. -/

namespace GeoFilter.Number

open Float.Model Float.Model.UnpackedFloat

/-! ## The fields of a bit pattern -/

theorem toNat_unpackMantissa (b : BitVec 64) :
    (@unpackMantissa Format.binary64 b).toNat = b.toNat % 2 ^ 52 := by
  simp [unpackMantissa]

theorem toNat_unpackExponent (b : BitVec 64) :
    (@unpackExponent Format.binary64 b).toNat = b.toNat / 2 ^ 52 % 2 ^ 11 := by
  simp [unpackExponent, Nat.shiftRight_eq_div_pow]

theorem toNat_unpackSign (b : BitVec 64) :
    (@unpackSign Format.binary64 b).toNat = b.toNat / 2 ^ 63 := by
  have hb : b.toNat < 2 ^ 64 := b.isLt
  unfold unpackSign
  simp only [BitVec.toNat_cast, BitVec.extractLsb_toNat, Nat.shiftRight_eq_div_pow]
  omega

theorem toNat_packComponents (s : Sign) (e : BitVec 11) (m : BitVec 52) :
    (packComponents Format.binary64 s e m).toNat
      = s.toBitVec.toNat * 2 ^ 63 + e.toNat * 2 ^ 52 + m.toNat := by
  unfold packComponents
  rw [BitVec.toNat_append, BitVec.toNat_append, ← Nat.shiftLeft_add_eq_or_of_lt m.isLt,
    ← Nat.shiftLeft_add_eq_or_of_lt e.isLt]
  simp only [Nat.shiftLeft_eq]
  omega

/-! ## Finite doubles, unpacked -/

/-- The sign of a number. -/
def signOf (negative : Bool) : Sign := if negative then .negative else .positive

/-- The bits of a sign and a code. -/
def bitsOf (negative : Bool) (code : ℕ) : ℕ := if negative then code + 2 ^ 63 else code

/-- A finite number with a sign and a code, unpacked. -/
def unpackedOf (negative : Bool) (code : ℕ) : UnpackedFloat :=
  if h : code = 0 then .zero (signOf negative)
  else .finite (signOf negative) (binary64.decode code).1 (binary64.decode code).2
    (Nat.pos_of_ne_zero (decode_ne_zero h))

theorem unpackedOf_zero (negative : Bool) : unpackedOf negative 0 = .zero (signOf negative) := rfl

theorem unpackedOf_of_ne (negative : Bool) {code : ℕ} (h : code ≠ 0) :
    unpackedOf negative code = .finite (signOf negative) (binary64.decode code).1
      (binary64.decode code).2 (Nat.pos_of_ne_zero (decode_ne_zero h)) := dif_neg h

theorem finite_congr {s : Sign} {m m' : ℕ} {e e' : ℤ} {h : 0 < m} {h' : 0 < m'} (hm : m = m')
    (he : e = e') : UnpackedFloat.finite s m e h = .finite s m' e' h' := by
  subst hm he
  rfl

section

variable {negative : Bool} {code : ℕ}

theorem bitsOf_fields (negative : Bool) (h : code < binary64.infinityCode) :
    bitsOf negative code < 2 ^ 64 ∧ bitsOf negative code / 2 ^ 63 = negative.toNat ∧
      bitsOf negative code / 2 ^ 52 % 2 ^ 11 = code / 2 ^ 52 ∧
      bitsOf negative code % 2 ^ 52 = code % 2 ^ 52 := by
  have hInfinity := infinityCode_binary64
  unfold bitsOf
  cases negative
  · refine ⟨?_, ?_, ?_, ?_⟩ <;> simp only [Bool.false_eq_true, if_false, Bool.toNat_false] <;> omega
  · refine ⟨?_, ?_, ?_, ?_⟩ <;> simp only [if_true, Bool.toNat_true] <;> omega

theorem unpack_bitsOf (h : code < binary64.infinityCode) :
    UnpackedFloat.unpack Format.binary64 (BitVec.ofNat 64 (bitsOf negative code))
      = unpackedOf negative code := by
  obtain ⟨hBits, hSign, hExponent, hMantissa⟩ := bitsOf_fields negative h
  have hInfinity := infinityCode_binary64
  generalize hb : BitVec.ofNat 64 (bitsOf negative code) = b
  have hNat : b.toNat = bitsOf negative code := by
    rw [← hb, BitVec.toNat_ofNat, Nat.mod_eq_of_lt hBits]
  have hM : (@unpackMantissa Format.binary64 b).toNat = code % 2 ^ 52 := by
    rw [toNat_unpackMantissa, hNat, hMantissa]
  have hE : (@unpackExponent Format.binary64 b).toNat = code / 2 ^ 52 := by
    rw [toNat_unpackExponent, hNat, hExponent]
  have hS : Sign.ofBitVec (@unpackSign Format.binary64 b) = signOf negative := by
    have hBit : (@unpackSign Format.binary64 b).toNat = negative.toNat := by
      rw [toNat_unpackSign, hNat, hSign]
    unfold Sign.ofBitVec signOf
    simp only [← BitVec.toNat_inj, hBit]
    cases negative <;> rfl
  have hFinite : ¬ @unpackExponent Format.binary64 b = -1#_ := by
    rw [← BitVec.toNat_inj, hE]
    simp only [BitVec.toNat_neg, BitVec.toNat_ofNat]
    omega
  have hZeroExponent : @unpackExponent Format.binary64 b = 0#_ ↔ code / 2 ^ 52 = 0 := by
    rw [← BitVec.toNat_inj, hE, BitVec.toNat_ofNat, Nat.zero_mod]
  have hZeroMantissa : @unpackMantissa Format.binary64 b = 0#_ ↔ code % 2 ^ 52 = 0 := by
    rw [← BitVec.toNat_inj, hM, BitVec.toNat_ofNat, Nat.zero_mod]
  have hBias : (Format.binary64.exponentBias : ℤ) + 52 = 1075 := rfl
  unfold UnpackedFloat.unpack unpackedOf
  dsimp only
  rw [if_neg hFinite, hS]
  by_cases hStep : code / 2 ^ 52 = 0
  · rw [if_pos (hZeroExponent.2 hStep)]
    by_cases hRest : code % 2 ^ 52 = 0
    · have hCode : code = 0 := by omega
      rw [dif_pos (hZeroMantissa.2 hRest), dif_pos hCode]
    · have hCode : code ≠ 0 := by omega
      rw [dif_neg (mt hZeroMantissa.1 hRest), dif_neg hCode]
      have hDecode : binary64.decode code = (code % 2 ^ 52, -1074) := if_pos hStep
      refine finite_congr ?_ ?_
      · rw [hM, hDecode]
      · rw [hE, hDecode, hStep]
        rfl
  · have hCode : code ≠ 0 := by omega
    rw [if_neg (mt hZeroExponent.1 hStep), dif_neg hCode]
    have hDecode : binary64.decode code
        = (2 ^ 52 + code % 2 ^ 52, -1074 + ((code / 2 ^ 52 - 1 : ℕ) : ℤ)) := if_neg hStep
    refine finite_congr ?_ ?_
    · rw [BitVec.toNat_append, ← Nat.shiftLeft_add_eq_or_of_lt (BitVec.isLt _), hM, hDecode]
      rfl
    · rw [hE, hDecode]
      show ((code / 2 ^ 52 : ℕ) : ℤ) - (Format.binary64.exponentBias + 52) = _
      rw [hBias]
      dsimp only
      omega

theorem toNat_signOf (negative : Bool) : (signOf negative).toBitVec.toNat = negative.toNat := by
  cases negative <;> rfl

theorem bitsOf_eq (negative : Bool) (code : ℕ) :
    bitsOf negative code = negative.toNat * 2 ^ 63 + code := by
  cases negative
  · simp [bitsOf]
  · simp [bitsOf, Nat.add_comm]

theorem pack_unpackedOf (h : code < binary64.infinityCode) :
    UnpackedFloat.pack Format.binary64 (unpackedOf negative code)
      = BitVec.ofNat 64 (bitsOf negative code) := by
  obtain ⟨hBits, -, -, -⟩ := bitsOf_fields negative h
  have hInfinity := infinityCode_binary64
  have hNat : (BitVec.ofNat 64 (bitsOf negative code)).toNat
      = negative.toNat * 2 ^ 63 + code := by
    rw [BitVec.toNat_ofNat, Nat.mod_eq_of_lt hBits, bitsOf_eq]
  refine BitVec.eq_of_toNat_eq (Eq.trans ?_ hNat.symm)
  by_cases hCode : code = 0
  · rw [hCode, unpackedOf_zero]
    show (packComponents _ _ _ _).toNat = _
    rw [toNat_packComponents, toNat_signOf]
    simp
  · rw [unpackedOf_of_ne _ hCode]
    have hBias : (Format.binary64.exponentBias : ℤ) = 1023 := rfl
    unfold UnpackedFloat.pack
    dsimp only
    by_cases hStep : code / 2 ^ 52 = 0
    · have hDecode : binary64.decode code = (code % 2 ^ 52, -1074) := if_pos hStep
      have hLog : ¬ (code % 2 ^ 52).log2 + 1 = Format.binary64.mantissaBits := by
        have hLt : (code % 2 ^ 52).log2 < 52 := (Nat.log2_lt (by omega)).2 (by omega)
        show ¬ (code % 2 ^ 52).log2 + 1 = 53
        omega
      simp only [hDecode]
      rw [if_neg (by decide), if_neg hLog, toNat_packComponents, toNat_signOf]
      simp only [BitVec.toNat_ofNat]
      omega
    · have hDecode : binary64.decode code
          = (2 ^ 52 + code % 2 ^ 52, -1074 + ((code / 2 ^ 52 - 1 : ℕ) : ℤ)) := if_neg hStep
      have hLog : (2 ^ 52 + code % 2 ^ 52).log2 + 1 = Format.binary64.mantissaBits := by
        have hLow : 52 ≤ (2 ^ 52 + code % 2 ^ 52).log2 := (Nat.le_log2 (by omega)).2 (by omega)
        have hHigh : (2 ^ 52 + code % 2 ^ 52).log2 < 53 := (Nat.log2_lt (by omega)).2 (by omega)
        show (2 ^ 52 + code % 2 ^ 52).log2 + 1 = 53
        omega
      have hBiased : (-1074 + ((code / 2 ^ 52 - 1 : ℕ) : ℤ) + (Format.binary64.exponentBias : ℤ)
          + (52 : ℕ)).toNat = code / 2 ^ 52 := by
        rw [hBias]
        omega
      simp only [hDecode, hBiased]
      rw [if_neg (by omega), if_pos hLog, toNat_packComponents, toNat_signOf]
      simp only [BitVec.toNat_ofNat]
      omega

end

/-! ## Doubles with a code -/

theorem eq_of_toBits {x y : Float} (h : x.toBits = y.toBits) : x = y := by
  obtain ⟨⟨bits, hValid⟩⟩ := x
  obtain ⟨⟨bits', hValid'⟩⟩ := y
  obtain rfl : bits = bits' := h
  rfl

/-- The bits of a finite double are its sign and its code. -/
theorem toBits_ofCode {negative : Bool} {code : ℕ} (h : code < binary64.infinityCode) :
    (ofCode negative code).toBits.toBitVec = BitVec.ofNat 64 (bitsOf negative code) := by
  show UnpackedFloat.pack Format.binary64
    (UnpackedFloat.unpack Format.binary64 (BitVec.ofNat 64 (bitsOf negative code))) = _
  rw [unpack_bitsOf h, pack_unpackedOf h]

theorem unpack_ofCode {negative : Bool} {code : ℕ} (h : code < binary64.infinityCode) :
    (ofCode negative code).toModel.unpack = unpackedOf negative code := by
  show UnpackedFloat.unpack Format.binary64 (ofCode negative code).toBits.toBitVec = _
  rw [toBits_ofCode h, unpack_bitsOf h]

theorem toNat_ofCode {negative : Bool} {code : ℕ} (h : code < binary64.infinityCode) :
    (ofCode negative code).toBits.toNat = bitsOf negative code := by
  obtain ⟨hBits, -, -, -⟩ := bitsOf_fields negative h
  rw [← UInt64.toNat_toBitVec, toBits_ofCode h, BitVec.toNat_ofNat, Nat.mod_eq_of_lt hBits]

/-- A double whose code is finite is given by its sign and its code. -/
theorem ofCode_code {x : Float} (h : code x < binary64.infinityCode) :
    ofCode (isNegative x) (code x) = x := by
  have hx : x.toBits.toNat < 2 ^ 64 := x.toBits.toNat_lt
  have hBits : bitsOf (isNegative x) (code x) = x.toBits.toNat := by
    rw [bitsOf_eq]
    unfold isNegative code
    by_cases hNegative : 0x8000000000000000 ≤ x.toBits.toNat
    · rw [decide_eq_true hNegative, Bool.toNat_true]
      omega
    · rw [decide_eq_false hNegative, Bool.toNat_false]
      omega
  exact eq_of_toBits (UInt64.toNat_inj.1 ((toNat_ofCode h).trans hBits))

theorem code_ofCode {negative : Bool} {c : ℕ} (h : c < binary64.infinityCode) :
    code (ofCode negative c) = c := by
  have hInfinity := infinityCode_binary64
  unfold code
  rw [toNat_ofCode h, bitsOf_eq]
  cases negative
  · rw [Bool.toNat_false]
    omega
  · rw [Bool.toNat_true]
    omega

theorem unpackedOf_isFinite (negative : Bool) (code : ℕ) :
    (unpackedOf negative code).isFinite = true := by
  by_cases hCode : code = 0
  · rw [hCode, unpackedOf_zero]
    rfl
  · rw [unpackedOf_of_ne _ hCode]
    rfl

theorem isFinite_ofCode {negative : Bool} {code : ℕ} (h : code < binary64.infinityCode) :
    (ofCode negative code).isFinite = true := by
  show (ofCode negative code).toModel.unpack.isFinite = true
  rw [unpack_ofCode h, unpackedOf_isFinite]

/-- A double is finite exactly if its code is. -/
theorem isFinite_iff {x : Float} : x.isFinite = true ↔ code x < binary64.infinityCode := by
  constructor
  · intro hFinite
    have hInfinity := infinityCode_binary64
    have hx : x.toBits.toNat < 2 ^ 64 := x.toBits.toNat_lt
    have hExponent := toNat_unpackExponent x.toBits.toBitVec
    apply Nat.lt_of_not_le
    intro hCode
    -- A code from infinity on has all bits of the exponent set.
    have hMax : @unpackExponent Format.binary64 x.toBits.toBitVec = -1#_ := by
      rw [← BitVec.toNat_inj, hExponent, UInt64.toNat_toBitVec]
      simp only [BitVec.toNat_neg, BitVec.toNat_ofNat]
      unfold code at hCode
      omega
    have hUnpacked : x.toModel.unpack.isFinite = true := hFinite
    have hBits : x.toModel.unpack = UnpackedFloat.unpack Format.binary64 x.toBits.toBitVec := rfl
    rw [hBits] at hUnpacked
    unfold UnpackedFloat.unpack at hUnpacked
    dsimp only at hUnpacked
    rw [if_pos hMax] at hUnpacked
    split at hUnpacked <;> exact absurd hUnpacked Bool.false_ne_true
  · intro h
    rw [← ofCode_code h]
    exact isFinite_ofCode h

/-! ## Negation -/

theorem neg_ofCode {negative : Bool} {code : ℕ} (h : code < binary64.infinityCode) :
    -(ofCode negative code) = ofCode (!negative) code := by
  have hNeg : (unpackedOf negative code).neg = unpackedOf (!negative) code := by
    by_cases hCode : code = 0
    · rw [hCode, unpackedOf_zero, unpackedOf_zero]
      cases negative <;> rfl
    · rw [unpackedOf_of_ne _ hCode, unpackedOf_of_ne _ hCode]
      cases negative <;> rfl
  refine eq_of_toBits ?_
  show UInt64.ofBitVec
      (UnpackedFloat.pack Format.binary64 (ofCode negative code).toModel.unpack.neg)
    = UInt64.ofBitVec (ofCode (!negative) code).toBits.toBitVec
  rw [unpack_ofCode h, hNeg, pack_unpackedOf h, toBits_ofCode h]

theorem isFinite_neg {x : Float} (h : x.isFinite = true) : (-x).isFinite = true := by
  have hCode := isFinite_iff.1 h
  rw [← ofCode_code hCode, neg_ofCode hCode]
  exact isFinite_ofCode hCode

/-! ## Comparison -/

theorem lt_iff {x y : Float} :
    x < y ↔ x.toModel.unpack.compare y.toModel.unpack = some .lt := by
  show (decide ((x.toModel.unpack.compare y.toModel.unpack == some .lt) = true)) = true ↔ _
  simp

theorem le_iff {x y : Float} :
    x ≤ y ↔ (x.toModel.unpack.compare y.toModel.unpack).any (·.isLE) = true := by
  show (decide ((x.toModel.unpack.compare y.toModel.unpack).any (·.isLE) = true)) = true ↔ _
  simp

theorem beq_iff {x y : Float} :
    (x == y) = true ↔ x.toModel.unpack.compare y.toModel.unpack = some .eq := by
  show ((x.toModel.unpack.compare y.toModel.unpack == some .eq) = true) ↔ _
  simp

/-- A finite double is equal to itself. -/
theorem beq_self_of_isFinite {x : Float} (h : x.isFinite = true) : (x == x) = true := by
  rw [beq_iff]
  have hFinite : x.toModel.unpack.isFinite = true := h
  cases hx : x.toModel.unpack with
  | infinity | notANumber =>
    rw [hx] at hFinite
    exact absurd hFinite Bool.false_ne_true
  | zero => rfl
  | finite s m e hm =>
    cases s
    · show some ((compare e e).then (compare m m)).swap = some .eq
      simp
    · show some ((compare e e).then (compare m m)) = some .eq
      simp

/-- Comparing in the other direction turns the order around, if there is one. -/
theorem compare_map_swap (u v : UnpackedFloat) :
    v.compare u = (u.compare v).map Ordering.swap := by
  have hFields : ∀ (e e' : ℤ) (m m' : ℕ),
      ((compare e e').then (compare m m')).swap = (compare e' e).then (compare m' m) := by
    intro e e' m m'
    rw [Ordering.swap_then, ← Std.OrientedCmp.eq_swap, ← Std.OrientedCmp.eq_swap]
  cases u with
  | notANumber =>
    cases v with
    | infinity s' => cases s' <;> rfl
    | notANumber | zero => rfl
    | finite s' => cases s' <;> rfl
  | infinity s =>
    cases v with
    | infinity s' => cases s <;> cases s' <;> rfl
    | notANumber => cases s <;> rfl
    | zero => cases s <;> rfl
    | finite s' => cases s <;> cases s' <;> rfl
  | zero s =>
    cases v with
    | infinity s' => cases s' <;> rfl
    | notANumber | zero => rfl
    | finite s' => cases s' <;> rfl
  | finite s m e h =>
    cases v with
    | infinity s' => cases s <;> cases s' <;> rfl
    | notANumber => cases s <;> rfl
    | zero => cases s <;> rfl
    | finite s' m' e' h' =>
      cases s <;> cases s'
      -- Two numbers of one sign compare by their fields, in reverse order below zero.
      · exact congrArg some (congrArg Ordering.swap (hFields e e' m m').symm)
      · rfl
      · rfl
      · exact congrArg some (hFields e e' m m').symm

theorem compare_swap {u v : UnpackedFloat} (hu : u.isFinite = true) (hv : v.isFinite = true) :
    ∃ o, u.compare v = some o ∧ v.compare u = some o.swap := by
  rw [compare_map_swap u v]
  cases u with
  | infinity | notANumber => exact absurd hu Bool.false_ne_true
  | zero s =>
    cases v with
    | infinity | notANumber => exact absurd hv Bool.false_ne_true
    | zero s' => exact ⟨.eq, rfl, rfl⟩
    | finite s' => cases s' <;> exact ⟨_, rfl, rfl⟩
  | finite s =>
    cases v with
    | infinity | notANumber => exact absurd hv Bool.false_ne_true
    | zero s' => cases s <;> exact ⟨_, rfl, rfl⟩
    | finite s' => cases s <;> cases s' <;> exact ⟨_, rfl, rfl⟩

/-- Of two finite doubles the one is less, or the other is less or equal. -/
theorem le_of_not_lt {x y : Float} (hx : x.isFinite = true) (hy : y.isFinite = true)
    (h : ¬ x < y) : y ≤ x := by
  obtain ⟨o, hCompare, hSwap⟩ := compare_swap (u := x.toModel.unpack) (v := y.toModel.unpack) hx hy
  rw [lt_iff, hCompare] at h
  rw [le_iff, hSwap]
  cases o with
  | lt => exact absurd rfl h
  | eq | gt => rfl

/-- Of two finite doubles the one is not above the other if it is less or equal. -/
theorem not_lt_of_le {x y : Float} (hx : x.isFinite = true) (hy : y.isFinite = true)
    (h : x ≤ y) : ¬ y < x := by
  obtain ⟨o, hCompare, hSwap⟩ := compare_swap (u := x.toModel.unpack) (v := y.toModel.unpack) hx hy
  rw [le_iff, hCompare] at h
  rw [lt_iff, hSwap]
  cases o with
  | gt => exact absurd h Bool.false_ne_true
  | lt | eq => simp

/-- A double that is less is less or equal. -/
theorem le_of_lt {x y : Float} (h : x < y) : x ≤ y := by
  rw [lt_iff] at h
  rw [le_iff, h]
  rfl

/-- A double less or equal but not less is equal. -/
theorem beq_of_le_of_not_lt {x y : Float} (h : x ≤ y) (hNot : ¬ x < y) : (x == y) = true := by
  rw [le_iff] at h
  rw [lt_iff] at hNot
  rw [beq_iff]
  cases hCompare : x.toModel.unpack.compare y.toModel.unpack with
  | none => simp [hCompare] at h
  | some o =>
    cases o with
    | lt => exact absurd hCompare hNot
    | eq => rfl
    | gt => simp [hCompare] at h

/-- Equality of finite doubles is symmetric. -/
theorem beq_symm {x y : Float} (hx : x.isFinite = true) (hy : y.isFinite = true)
    (h : (x == y) = true) : (y == x) = true := by
  obtain ⟨o, hCompare, hSwap⟩ := compare_swap (u := x.toModel.unpack) (v := y.toModel.unpack) hx hy
  rw [beq_iff, hCompare] at h
  obtain rfl := Option.some.inj h
  rw [beq_iff, hSwap]
  rfl

/-! ## Zeros -/

/-- A double without the sign of zero. -/
def withoutZeroSign (x : Float) : Float := if code x = 0 then ofCode false 0 else x

theorem unpack_zero (negative : Bool) :
    (ofCode negative 0).toModel.unpack = .zero (signOf negative) :=
  unpack_ofCode (by decide)

theorem unpack_of_code_zero {x : Float} (h : code x = 0) :
    x.toModel.unpack = .zero (signOf (isNegative x)) := by
  have hCode : code x < binary64.infinityCode := by
    rw [h]
    decide
  rw [← unpack_zero, ← h, ofCode_code hCode]

/-- The comparisons do not see the sign of zero. -/
theorem compare_withoutZeroSign (x y : Float) :
    (withoutZeroSign x).toModel.unpack.compare (withoutZeroSign y).toModel.unpack
      = x.toModel.unpack.compare y.toModel.unpack := by
  have hLeft : ∀ (s s' : Sign) (v : UnpackedFloat),
      (UnpackedFloat.zero s).compare v = (UnpackedFloat.zero s').compare v := by
    intro s s' v
    cases v with
    | infinity s'' => cases s'' <;> rfl
    | notANumber => rfl
    | zero => rfl
    | finite s'' => cases s'' <;> rfl
  have hRight : ∀ (s s' : Sign) (v : UnpackedFloat),
      v.compare (UnpackedFloat.zero s) = v.compare (UnpackedFloat.zero s') := by
    intro s s' v
    cases v with
    | infinity s'' => cases s'' <;> rfl
    | notANumber => rfl
    | zero => rfl
    | finite s'' => cases s'' <;> rfl
  unfold withoutZeroSign
  split
  · next hx =>
    rw [unpack_of_code_zero hx, unpack_zero]
    split
    · next hy =>
      rw [unpack_of_code_zero hy, unpack_zero]
      rfl
    · exact hLeft _ _ _
  · split
    · next hy =>
      rw [unpack_of_code_zero hy, unpack_zero]
      exact hRight _ _ _
    · rfl

theorem withoutZeroSign_beq_iff {x y : Float} :
    (withoutZeroSign x == y) = true ↔ (x == y) = true := by
  have hTwice : withoutZeroSign (withoutZeroSign x) = withoutZeroSign x := by
    unfold withoutZeroSign
    split
    · rw [if_pos (code_ofCode (by decide))]
    · rfl
  have hCompare := compare_withoutZeroSign (withoutZeroSign x) y
  rw [hTwice, compare_withoutZeroSign] at hCompare
  rw [beq_iff, beq_iff, hCompare]

/-- A finite double is equal to itself without the sign of zero. -/
theorem withoutZeroSign_beq {x : Float} (h : x.isFinite = true) :
    (withoutZeroSign x == x) = true := withoutZeroSign_beq_iff.2 (beq_self_of_isFinite h)

theorem withoutZeroSign_lt_iff {x y : Float} :
    withoutZeroSign x < withoutZeroSign y ↔ x < y := by
  rw [lt_iff, lt_iff, compare_withoutZeroSign]

end GeoFilter.Number
