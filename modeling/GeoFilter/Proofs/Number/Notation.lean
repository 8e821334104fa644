import GeoFilter.Proofs.Number.ReadBack

set_option autoImplicit false

/-! # The text of a magnitude

A magnitude is written as digits, or as digits, a point and more digits. Such text is read as the
decimal that it spells, so the text of a finite magnitude is read as the double that has it. -/

namespace GeoFilter.Number

/-- All characters are decimal digits. -/
def AllDigits (cs : List Char) : Prop := ∀ c ∈ cs, c.isDigit = true

theorem AllDigits.append {cs cs' : List Char} (h : AllDigits cs) (h' : AllDigits cs') :
    AllDigits (cs ++ cs') := by
  intro c hc
  rcases List.mem_append.1 hc with hc | hc
  · exact h c hc
  · exact h' c hc

theorem allDigits_toDigits (n : ℕ) : AllDigits (Nat.toDigits 10 n) :=
  fun _ hc => Nat.isDigit_of_mem_toDigits (by decide) (by decide) hc

theorem allDigits_zeros (n : ℕ) : AllDigits (List.replicate n '0') := by
  intro c hc
  rw [List.eq_of_mem_replicate hc]
  rfl

/-! ## Digits around a point -/

/-- Digits with a point between them, which is left out where no digit follows it. -/
def pointed (whole fraction : List Char) : List Char :=
  if fraction = [] then whole else whole ++ '.' :: fraction

/-- A text is digits around a point, the first part not empty. -/
structure Spells (cs whole fraction : List Char) : Prop where
  eq : cs = pointed whole fraction
  ne_nil : whole ≠ []
  whole : AllDigits whole
  fraction : AllDigits fraction

theorem natOfDigits_eq (cs : List Char) : natOfDigits cs = Nat.ofDigitChars 10 cs 0 := rfl

theorem natOfDigits_append_zeros (cs : List Char) (n : ℕ) :
    natOfDigits (cs ++ List.replicate n '0') = natOfDigits cs * 10 ^ n := by
  rw [natOfDigits_eq, natOfDigits_eq, Nat.ofDigitChars_append, Nat.ofDigitChars_replicate_zero,
    Nat.mul_comm]

theorem natOfDigits_zeros_append (cs : List Char) (n : ℕ) :
    natOfDigits (List.replicate n '0' ++ cs) = natOfDigits cs := by
  rw [natOfDigits_eq, natOfDigits_eq, Nat.ofDigitChars_append, Nat.ofDigitChars_replicate_zero,
    Nat.mul_zero]

/-- Laid out digits spell a decimal of the same value. -/
theorem layOut_spells {digits : List Char} (hNe : digits ≠ []) (hDigits : AllDigits digits)
    (e : ℤ) :
    ∃ whole fraction, Spells (layOut digits e) whole fraction ∧
      natOfDigits (whole ++ fraction) = natOfDigits digits * 10 ^ e.toNat ∧
      fraction.length = (-e).toNat := by
  unfold layOut
  dsimp only
  split
  · next hWhole =>
    refine ⟨digits ++ List.replicate e.toNat '0', [], ⟨rfl, ?_, ?_, ?_⟩, ?_, ?_⟩
    · simp [hNe]
    · exact hDigits.append (allDigits_zeros _)
    · exact fun _ hc => nomatch hc
    · rw [List.append_nil, natOfDigits_append_zeros]
    · rw [List.length_nil]
      omega
  · next hNegative =>
    have hPower : e.toNat = 0 := by omega
    rw [hPower, Nat.pow_zero, Nat.mul_one]
    split
    · next hPlaces =>
      refine ⟨digits.take (digits.length - (-e).toNat), digits.drop (digits.length - (-e).toNat),
        ⟨?_, ?_, ?_, ?_⟩, ?_, ?_⟩
      · have hFraction : digits.drop (digits.length - (-e).toNat) ≠ [] := by
          rw [ne_eq, List.drop_eq_nil_iff]
          omega
        rw [pointed, if_neg hFraction]
      · rw [ne_eq, List.take_eq_nil_iff]
        rintro (hZero | hNil)
        · omega
        · exact hNe hNil
      · exact fun c hc => hDigits c (List.mem_of_mem_take hc)
      · exact fun c hc => hDigits c (List.mem_of_mem_drop hc)
      · rw [List.take_append_drop]
      · rw [List.length_drop]
        omega
    · next hPlaces =>
      refine ⟨['0'], List.replicate ((-e).toNat - digits.length) '0' ++ digits,
        ⟨?_, by simp, ?_, ?_⟩, ?_, ?_⟩
      · rw [pointed, if_neg (by simp [hNe])]
        rfl
      · exact allDigits_zeros 1
      · exact (allDigits_zeros _).append hDigits
      -- The digit before the point is one of the zeros that are put in front.
      · have hZeros := natOfDigits_zeros_append digits ((-e).toNat - digits.length + 1)
        rwa [List.replicate_succ] at hZeros
      · rw [List.length_append, List.length_replicate]
        omega

/-! ## Reading -/

theorem takeWhile_digits {cs : List Char} (rest : List Char) (h : AllDigits cs)
    (hRest : ∀ c ∈ rest.head?, c.isDigit = false) :
    (cs ++ rest).takeWhile Char.isDigit = cs ∧ (cs ++ rest).dropWhile Char.isDigit = rest := by
  rw [List.takeWhile_append_of_pos h, List.dropWhile_append_of_pos h]
  cases rest with
  | nil => exact ⟨List.append_nil cs, rfl⟩
  | cons c rest =>
    have hc := hRest c rfl
    rw [List.takeWhile_cons_of_neg (by simp [hc]), List.dropWhile_cons_of_neg (by simp [hc])]
    exact ⟨List.append_nil cs, rfl⟩

theorem readMagnitude_spells {cs whole fraction : List Char} (h : Spells cs whole fraction)
    (negative : Bool) :
    readMagnitude negative cs
      = some ⟨negative, natOfDigits (whole ++ fraction), -(fraction.length : ℤ)⟩ := by
  have hWhole : whole.isEmpty = false := by
    rw [List.isEmpty_eq_false_iff]
    exact h.ne_nil
  rw [h.eq]
  unfold pointed
  split
  · next hNil =>
    obtain ⟨hTake, hDrop⟩ := takeWhile_digits [] h.whole fun _ hc => nomatch hc
    rw [List.append_nil] at hTake hDrop
    unfold readMagnitude
    rw [hTake, hDrop, hNil]
    simp [hWhole, readExponent]
  · next hNe =>
    obtain ⟨hTake, hDrop⟩ := takeWhile_digits ('.' :: fraction) h.whole (by simp)
    obtain ⟨hTake', hDrop'⟩ := takeWhile_digits [] h.fraction fun _ hc => nomatch hc
    rw [List.append_nil] at hTake' hDrop'
    unfold readMagnitude
    rw [hTake, hDrop]
    simp [hWhole, readExponent, hTake', hDrop']

/-- Text that starts with a digit has no sign. -/
theorem readNumber_spells {cs whole fraction : List Char} (h : Spells cs whole fraction) :
    readNumber cs
      = some (.decimal ⟨false, natOfDigits (whole ++ fraction), -(fraction.length : ℤ)⟩) := by
  have hReads := readMagnitude_spells h false
  have hFirst : ∀ rest, cs ≠ '-' :: rest ∧ cs ≠ '+' :: rest := by
    intro rest
    obtain ⟨c, whole', hc⟩ := List.exists_cons_of_ne_nil h.ne_nil
    have hDigit := h.whole c (hc ▸ List.mem_cons_self)
    have hHead : cs.head? = some c := by
      rw [h.eq, hc]
      unfold pointed
      split <;> rfl
    constructor <;> rintro rfl <;> obtain rfl := Option.some.inj hHead <;>
      exact absurd hDigit (by decide)
  unfold readNumber
  split
  · next rest => exact absurd rfl (hFirst rest).1
  · next rest => exact absurd rfl (hFirst rest).2
  · unfold readUnsigned
    rw [hReads]

/-- Zeros written out for a power of ten do not change the magnitude. -/
theorem encode_spelled {digits code : ℕ} {e : ℤ}
    (h : Decimal.encode binary64 ⟨false, digits, e⟩ = code)
    (hFinite : code < binary64.infinityCode) :
    Decimal.encode binary64 ⟨false, digits * 10 ^ e.toNat, -((-e).toNat : ℤ)⟩ = code := by
  rcases Int.lt_or_le e 0 with hNegative | hWhole
  · have hExponent : -((-e).toNat : ℤ) = e := by omega
    have hPower : e.toNat = 0 := by omega
    rwa [hExponent, hPower, Nat.pow_zero, Nat.mul_one]
  · have hExponent : (-e).toNat = 0 := by omega
    rw [hExponent]
    by_cases hDigits : digits = 0
    · subst hDigits
      simpa [Decimal.encode] using h
    -- A greater exponent would make the code infinite, which it is not.
    · have hLimit : e ≤ 400 := by
        apply Int.not_lt.1
        intro hHigh
        rw [Decimal.encode, if_neg hDigits, if_pos hHigh] at h
        exact absurd h.symm (Nat.ne_of_lt hFinite)
      have hModerate : Decimal.Moderate ⟨false, digits, e⟩ := by
        refine ⟨hDigits, hLimit, ?_⟩
        dsimp only
        omega
      have hSpelled : Decimal.Moderate ⟨false, digits * 10 ^ e.toNat, -((0 : ℕ) : ℤ)⟩ := by
        refine ⟨Nat.mul_ne_zero hDigits (by positivity), ?_, ?_⟩ <;> dsimp only <;> omega
      rw [← h]
      refine Decimal.encode_eq_of_quotient hSpelled hModerate ?_ binary64
      rw [Decimal.quotient_eq, Decimal.quotient_eq, hExponent]
      simp

/-- The text of a finite magnitude is digits around a point, and what they spell has the code. -/
theorem magnitudeText_spells {code : ℕ} (h : code < binary64.infinityCode) :
    ∃ whole fraction, Spells (magnitudeText code) whole fraction ∧
      Decimal.encode binary64 ⟨false, natOfDigits (whole ++ fraction), -(fraction.length : ℤ)⟩
        = code := by
  obtain ⟨whole, fraction, hSpells, hValue, hLength⟩ :=
    layOut_spells Nat.toDigits_ne_nil (allDigits_toDigits (shortest .up code).1)
      (shortest .up code).2
  have hText : magnitudeText code
      = layOut (Nat.toDigits 10 (shortest .up code).1) (shortest .up code).2 := rfl
  have hReads := shortest_readsBack h
  rw [hText]
  generalize (shortest .up code).1 = digits at *
  generalize (shortest .up code).2 = e at *
  rw [natOfDigits_eq (Nat.toDigits 10 digits), Nat.ofDigitChars_ten_toDigits] at hValue
  refine ⟨whole, fraction, hSpells, ?_⟩
  rw [hValue, hLength, encode_spelled hReads h]

/-- The text of a finite magnitude is digits around a point, and is read as that magnitude. -/
theorem magnitudeText_reads {code : ℕ} (h : code < binary64.infinityCode) :
    (∃ whole fraction, Spells (magnitudeText code) whole fraction) ∧
      readFloat (magnitudeText code) = some (ofCode false code) := by
  obtain ⟨whole, fraction, hSpells, hCode⟩ := magnitudeText_spells h
  refine ⟨⟨whole, fraction, hSpells⟩, ?_⟩
  unfold readFloat
  rw [readNumber_spells hSpells]
  show some (Decimal.toFloat _) = _
  unfold Decimal.toFloat
  rw [hCode]

/-- A minus sign before the text of a magnitude is read as the sign. -/
theorem magnitudeText_reads_minus {code : ℕ} (h : code < binary64.infinityCode) :
    readFloat ('-' :: magnitudeText code) = some (ofCode true code) := by
  obtain ⟨whole, fraction, hSpells, hCode⟩ := magnitudeText_spells h
  have hReads : readNumber ('-' :: magnitudeText code)
      = some (.decimal ⟨true, natOfDigits (whole ++ fraction), -(fraction.length : ℤ)⟩) := by
    rw [readNumber, readUnsigned, readMagnitude_spells hSpells true]
  unfold readFloat
  rw [hReads]
  -- The code of a decimal does not depend on its sign.
  exact congrArg (fun n => some (ofCode true n)) hCode

end GeoFilter.Number
