import GeoFilter.Proofs.Lexer.Yields
import GeoFilter.Proofs.Number.Double
import GeoFilter.Proofs.Number.Notation

set_option autoImplicit false

/-! # Printed numbers

A finite number is printed as digits, with a minus sign in front if it is below zero. The digits
are read back as its magnitude and the minus sign as a negation, so what comes back is the number
itself, but for the sign of a zero. -/

namespace GeoFilter

open Number

namespace Number

/-! ## The text of a finite number -/

theorem shape_of_isFinite {x : Float} (h : x.isFinite = true) :
    shape x = .finite (isNegative x) (code x) := if_pos (isFinite_iff.1 h)

theorem lt_zero_iff {x : Float} (h : x.isFinite = true) :
    x < 0 ↔ isNegative x = true ∧ code x ≠ 0 := by
  have hFinite := isFinite_iff.1 h
  have hZero : (0 : Float).toModel.unpack = .zero .positive := unpack_zero false
  have hUnpack : x.toModel.unpack = unpackedOf (isNegative x) (code x) := by
    rw [← unpack_ofCode hFinite, ofCode_code hFinite]
  rw [lt_iff, hUnpack, hZero]
  by_cases hCode : code x = 0
  · rw [hCode, unpackedOf_zero]
    show some Ordering.eq = some .lt ↔ _
    simp
  · rw [unpackedOf_of_ne _ hCode]
    cases isNegative x
    · show some Ordering.gt = some .lt ↔ _
      simp
    · show some Ordering.lt = some .lt ↔ _
      simp [hCode]

/-- A finite number is printed as its magnitude, after a minus sign if it is below zero. -/
theorem toList_canonical {x : Float} (h : x.isFinite = true) :
    (canonical x).toList
      = if x < 0 then '-' :: magnitudeText (code x) else magnitudeText (code x) := by
  unfold canonical positional
  rw [shape_of_isFinite h]
  by_cases hCode : code x = 0
  -- Both zeros are printed as one digit.
  · have hNot : ¬ x < 0 := fun hx => ((lt_zero_iff h).1 hx).2 hCode
    have hText : magnitudeText 0 = ['0'] := by decide
    rw [if_neg hNot, hCode, hText]
    dsimp only
    exact String.toList_ofList
  · split
    · next hZero => exact absurd (Shape.finite.inj hZero).2 hCode
    · dsimp only
      by_cases hNegative : isNegative x = true
      · rw [if_pos hNegative, if_pos ((lt_zero_iff h).2 ⟨hNegative, hCode⟩), String.toList_ofList]
      · rw [if_neg hNegative, if_neg fun hx => hNegative ((lt_zero_iff h).1 hx).1,
          String.toList_ofList]

end Number

namespace Cql

open Grammar

/-! ## The tokens of a number -/

/-- A number takes all of its digits and its point. -/
theorem numberLength_pointed {first : Char} {whole fraction : List Char}
    (hWhole : AllDigits (first :: whole)) (hFraction : AllDigits fraction) :
    ∃ rest, pointed (first :: whole) fraction = first :: rest ∧
      numberLength first rest = rest.length := by
  have hFirst : first ≠ '.' := by
    rintro rfl
    exact absurd (hWhole '.' List.mem_cons_self) (by decide)
  have hTail : AllDigits whole := fun c hc => hWhole c (List.mem_cons_of_mem _ hc)
  unfold pointed
  split
  · next hNil =>
    have hRun : runLength Char.isDigit whole = whole.length := runLength_eq_length hTail
    refine ⟨whole, rfl, ?_⟩
    simp [numberLength, hFirst, hRun, fractionLength, exponentLength]
  · next hSome =>
    have hRun : runLength Char.isDigit (whole ++ '.' :: fraction) = whole.length := by
      rw [runLength_append (by simp), runLength_eq_length hTail]
    have hRunFraction : runLength Char.isDigit fraction = fraction.length :=
      runLength_eq_length hFraction
    refine ⟨whole ++ '.' :: fraction, rfl, ?_⟩
    have hDrop : (whole ++ '.' :: fraction).drop (whole.length + (1 + fraction.length)) = [] := by
      rw [List.drop_eq_nil_iff, List.length_append, List.length_cons]
      omega
    simp only [numberLength, hFirst, if_false, hRun, List.drop_left, fractionLength, hRunFraction,
      hDrop, exponentLength, List.length_append, List.length_cons]
    omega

theorem yields_magnitude {code : ℕ} (h : code < binary64.infinityCode) :
    Yields (magnitudeText code) [.number (ofCode false code)] := by
  obtain ⟨⟨whole, fraction, hSpells⟩, hRead⟩ := magnitudeText_reads h
  obtain ⟨first, whole, rfl⟩ := List.exists_cons_of_ne_nil hSpells.ne_nil
  obtain ⟨rest, hText, hLength⟩ := numberLength_pointed hSpells.whole hSpells.fraction
  have hMagnitude : magnitudeText code = first :: rest := hSpells.eq.trans hText
  rw [hMagnitude] at hRead ⊢
  have hDigit : first.isDigit = true := hSpells.whole first List.mem_cons_self
  have hQuote : ∀ c ∈ ['\'', '"'], first ≠ c := by
    rintro c hc rfl
    have hOther : ∀ c ∈ ['\'', '"'], c.isDigit = false := all_fail (by decide)
    rw [hOther first hc] at hDigit
    exact absurd hDigit (by simp)
  refine yields_token ?_ (fun _ hKind => nomatch hKind)
  rw [scan, if_neg (hQuote _ (by decide)), if_neg (hQuote _ (by decide)),
    if_pos (by simp [startsNumber, hDigit])]
  simp [scanNumber, hLength, hRead, isFinite_ofCode h]

/-- A finite number is read back without the sign of zero, a minus sign taking one level. -/
theorem number_reads {x : Float} (h : x.isFinite = true) :
    ∃ ks, Yields (canonical x).toList ks ∧
      Arithmetic .unary (if x < 0 then 1 else 0) ks (.literal (.number (withoutZeroSign x))) := by
  have hCode := isFinite_iff.1 h
  have hMagnitude := yields_magnitude hCode
  have hPrimary : Arithmetic .unary 0 [.number (ofCode false (code x))]
      (.literal (.number (ofCode false (code x)))) := .operand (.number _)
  rw [toList_canonical h]
  by_cases hx : x < 0
  -- Below zero the minus sign negates the magnitude, which gives the number itself.
  · obtain ⟨hNegative, hNe⟩ := (lt_zero_iff h).1 hx
    have hValue : withoutZeroSign x = -(ofCode false (code x)) := by
      rw [withoutZeroSign, if_neg hNe, neg_ofCode hCode, Bool.not_false, ← hNegative,
        ofCode_code hCode]
    rw [if_pos hx, if_pos hx, hValue]
    exact ⟨_, hMagnitude.minus, .minusNumber hPrimary⟩
  · have hValue : withoutZeroSign x = ofCode false (code x) := by
      by_cases hZero : code x = 0
      · rw [withoutZeroSign, if_pos hZero, hZero]
      · have hPositive : isNegative x = false := by
          rw [← Bool.not_eq_true]
          exact fun hNegative => hx ((lt_zero_iff h).2 ⟨hNegative, hZero⟩)
        rw [withoutZeroSign, if_neg hZero, ← hPositive, ofCode_code hCode]
    rw [if_neg hx, if_neg hx, hValue]
    exact ⟨_, hMagnitude, hPrimary⟩

end Cql

end GeoFilter
