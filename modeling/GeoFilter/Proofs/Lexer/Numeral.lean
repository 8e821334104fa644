import GeoFilter.Proofs.Lexer.Recased
import GeoFilter.Proofs.Number.LetterCase

set_option autoImplicit false

/-! # The text of a number

A numeral is digits, a point and more digits, and an exponent, where one of the first three may be
missing and the exponent as well. Where a number starts, the lexer takes the longest numeral that
stands there, and it refuses it only for an overflow. -/

namespace GeoFilter.Cql

open Number

/-! ## The grammar -/

/-- The part of a numeral from the point on. -/
inductive Fraction : List Char → Prop where
  | absent : Fraction []
  | digits {ds : List Char} (h : AllDigits ds) : Fraction ('.' :: ds)

/-- The part of a numeral from the letter of the exponent on. -/
inductive Exponent : List Char → Prop where
  | absent : Exponent []
  | plain {mark : Char} {ds : List Char} (hMark : mark = 'e' ∨ mark = 'E') (hNe : ds ≠ [])
      (h : AllDigits ds) : Exponent (mark :: ds)
  | withSign {mark sign : Char} {ds : List Char} (hMark : mark = 'e' ∨ mark = 'E')
      (hSign : sign = '+' ∨ sign = '-') (hNe : ds ≠ []) (h : AllDigits ds) :
      Exponent (mark :: sign :: ds)

/-- The ways to write a number; there is a digit before the exponent. -/
inductive Numeral : List Char → Prop where
  | parts {whole fraction exponent : List Char} (hWhole : AllDigits whole)
      (hFraction : Fraction fraction) (hExponent : Exponent exponent)
      (hDigit : (whole ++ fraction).any Char.isDigit = true) :
      Numeral (whole ++ fraction ++ exponent)

/-- A numeral at the start of a text, as long as it can be. -/
structure LongestNumeral (literal cs : List Char) : Prop where
  numeral : Numeral literal
  starts : literal <+: cs
  longest : ∀ candidate, Numeral candidate → candidate <+: cs → candidate.length ≤ literal.length

/-- There is only one longest numeral. -/
theorem LongestNumeral.unique {literal literal' cs : List Char} (h : LongestNumeral literal cs)
    (h' : LongestNumeral literal' cs) : literal = literal' :=
  (List.prefix_of_prefix_length_le h.starts h'.starts
    (h'.longest _ h.numeral h.starts)).eq_of_length_le (h.longest _ h'.numeral h'.starts)

/-! ## What the lexer takes is a numeral -/

/-- The number of characters that the lexer takes from where a number starts. -/
def numeralLength (cs : List Char) : ℕ :=
  let whole := runLength Char.isDigit cs
  let mantissa := whole + fractionLength (cs.drop whole)
  mantissa + exponentLength (cs.drop mantissa)

theorem numeralLength_cons {first : Char} {rest : List Char} (h : startsNumber first rest = true) :
    numeralLength (first :: rest) = numberLength first rest + 1 := by
  by_cases hPoint : first = '.'
  · subst hPoint
    have hRun : runLength Char.isDigit ('.' :: rest) = 0 := by rw [runLength_cons]; rfl
    have hFraction : fractionLength ('.' :: rest) = runLength Char.isDigit rest + 1 :=
      Nat.add_comm _ _
    simp only [numeralLength, hRun, List.drop_zero, hFraction, Nat.zero_add, List.drop_succ_cons,
      numberLength, if_pos]
    omega
  · have hDigit : first.isDigit = true := by simpa [startsNumber, hPoint] using h
    have hRun : runLength Char.isDigit (first :: rest) = runLength Char.isDigit rest + 1 := by
      rw [runLength_cons, if_pos hDigit]
    simp only [numeralLength, hRun, List.drop_succ_cons, Nat.add_right_comm _ 1, numberLength,
      if_neg hPoint]

theorem fraction_take (cs : List Char) : Fraction (cs.take (fractionLength cs)) := by
  unfold fractionLength
  split
  · next cs =>
    rw [Nat.add_comm, List.take_succ_cons, take_runLength]
    exact .digits (allDigits_takeWhile cs)
  · exact .absent

theorem ne_nil_of_runLength {test : Char → Bool} {cs : List Char} (h : runLength test cs ≠ 0) :
    cs.takeWhile test ≠ [] := mt List.length_eq_zero_iff.2 h

theorem exponent_take (cs : List Char) : Exponent (cs.take (exponentLength cs)) := by
  unfold exponentLength
  split
  · exact .absent
  · next mark cs =>
    split
    · next hMark =>
      split
      · exact .absent
      · next sign digits =>
        split
        · next hSign =>
          split
          · exact .absent
          · next hRun =>
            rw [Nat.add_comm, List.take_succ_cons, List.take_succ_cons, take_runLength]
            exact .withSign hMark hSign (ne_nil_of_runLength hRun) (allDigits_takeWhile digits)
        · split
          · exact .absent
          · next hRun =>
            rw [Nat.add_comm, List.take_succ_cons, take_runLength]
            exact .plain hMark (ne_nil_of_runLength hRun) (allDigits_takeWhile _)
    · exact .absent

/-- What the lexer takes has a digit before the exponent. -/
theorem any_isDigit_take {first : Char} {rest : List Char}
    (h : startsNumber first rest = true) :
    ((first :: rest).take (runLength Char.isDigit (first :: rest)
      + fractionLength ((first :: rest).drop (runLength Char.isDigit (first :: rest))))).any
        Char.isDigit = true := by
  by_cases hDigit : first.isDigit = true
  · rw [runLength_cons, if_pos hDigit, Nat.add_right_comm, List.take_succ_cons, List.any_cons,
      hDigit, Bool.true_or]
  · obtain ⟨rfl, hRest⟩ : first = '.' ∧ rest.head?.any Char.isDigit = true := by
      simpa [startsNumber, hDigit] using h
    cases rest with
    | nil => exact absurd hRest Bool.false_ne_true
    | cons d rest =>
      have hFirst : d.isDigit = true := hRest
      have hFraction : fractionLength ('.' :: d :: rest) = runLength Char.isDigit rest + 1 + 1 := by
        rw [fractionLength, runLength_cons, if_pos hFirst, Nat.add_comm]
      rw [runLength_cons, if_neg hDigit, List.drop_zero, hFraction, Nat.zero_add,
        List.take_succ_cons, List.take_succ_cons, List.any_cons, List.any_cons, hFirst,
        Bool.true_or, Bool.or_true]

theorem numeral_take {first : Char} {rest : List Char} (h : startsNumber first rest = true) :
    Numeral ((first :: rest).take (numeralLength (first :: rest))) := by
  have hDigit := any_isDigit_take h
  rw [List.take_add] at hDigit
  rw [numeralLength, List.take_add, List.take_add]
  refine .parts ?_ (fraction_take _) (exponent_take _) hDigit
  rw [take_runLength]
  exact allDigits_takeWhile _

/-! ## What the lexer takes is as long as it can be -/

theorem runLength_digits_append {ds : List Char} (h : AllDigits ds) (more : List Char) :
    runLength Char.isDigit (ds ++ more) = ds.length + runLength Char.isDigit more := by
  rw [runLength, List.takeWhile_append_of_pos h, List.length_append, runLength]

/-- Neither digits nor a fraction go on with the letter of an exponent. -/
theorem not_continued_by_exponent {mark : Char} (hMark : mark = 'e' ∨ mark = 'E')
    (more : List Char) :
    runLength Char.isDigit (mark :: more) = 0 ∧ fractionLength (mark :: more) = 0 := by
  rw [runLength_cons]
  rcases hMark with rfl | rfl <;> exact ⟨rfl, rfl⟩

theorem Exponent.length_le {exponent : List Char} (h : Exponent exponent) (more : List Char) :
    exponent.length ≤ exponentLength (exponent ++ more) := by
  cases h with
  | absent => exact Nat.zero_le _
  | @plain mark ds hMark hNe hDigits =>
    obtain ⟨d, ds, rfl⟩ := List.exists_cons_of_ne_nil hNe
    have hNotSign : ¬ (d = '+' ∨ d = '-') := by
      have hDigit := hDigits d List.mem_cons_self
      rintro (rfl | rfl) <;> exact absurd hDigit (by decide)
    have hRun := runLength_digits_append hDigits more
    rw [List.length_cons] at hRun
    simp only [List.cons_append, exponentLength, if_pos hMark, if_neg hNotSign, List.length_cons]
    rw [← List.cons_append, hRun, if_neg (by omega)]
    omega
  | @withSign mark sign ds hMark hSign hNe hDigits =>
    have hRun := runLength_digits_append hDigits more
    have hPos := List.length_pos_of_ne_nil hNe
    simp only [List.cons_append, exponentLength, if_pos hMark, if_pos hSign, List.length_cons]
    rw [hRun, if_neg (by omega)]
    omega

theorem Exponent.eq_nil_or_cons {exponent : List Char} (h : Exponent exponent) :
    exponent = [] ∨ ∃ mark ds, exponent = mark :: ds ∧ (mark = 'e' ∨ mark = 'E') := by
  cases h with
  | absent => exact .inl rfl
  | plain hMark => exact .inr ⟨_, _, rfl, hMark⟩
  | withSign hMark => exact .inr ⟨_, _, rfl, hMark⟩

theorem numeralLength_digits_append {ds : List Char} (h : AllDigits ds) (more : List Char) :
    numeralLength (ds ++ more) = ds.length + numeralLength more := by
  simp only [numeralLength, runLength_digits_append h, Nat.add_assoc, List.drop_length_add_append]

theorem numeralLength_point {ds : List Char} (h : AllDigits ds) (more : List Char) :
    numeralLength ('.' :: (ds ++ more)) = ds.length + 1 + (runLength Char.isDigit more
      + exponentLength (more.drop (runLength Char.isDigit more))) := by
  have hRun : runLength Char.isDigit ('.' :: (ds ++ more)) = 0 := by rw [runLength_cons]; rfl
  have hFraction : fractionLength ('.' :: (ds ++ more))
      = ds.length + runLength Char.isDigit more + 1 := by
    rw [fractionLength, runLength_digits_append h, Nat.add_comm]
  simp only [numeralLength, hRun, List.drop_zero, hFraction, Nat.zero_add, List.drop_succ_cons,
    List.drop_length_add_append]
  omega

/-- Whatever follows a numeral, the lexer does not take less. -/
theorem Numeral.length_le {literal : List Char} (h : Numeral literal) (more : List Char) :
    literal.length ≤ numeralLength (literal ++ more) := by
  obtain @⟨whole, fraction, exponent, hWhole, hFraction, hExponent, -⟩ := h
  have hExponentLength := hExponent.length_le more
  rw [List.append_assoc, List.append_assoc, numeralLength_digits_append hWhole,
    List.length_append]
  refine Nat.add_le_add_left ?_ _
  cases hFraction with
  | absent =>
    rw [List.nil_append]
    obtain rfl | ⟨mark, ds, rfl, hMark⟩ := hExponent.eq_nil_or_cons
    · exact Nat.zero_le _
    · obtain ⟨hRun, hNoFraction⟩ := not_continued_by_exponent hMark (ds ++ more)
      rw [List.cons_append] at hExponentLength ⊢
      simpa only [numeralLength, hRun, List.drop_zero, hNoFraction, Nat.zero_add]
        using hExponentLength
  | @digits ds hDigits =>
    rw [List.cons_append, List.cons_append, List.append_assoc, numeralLength_point hDigits,
      List.length_cons, List.length_append]
    obtain rfl | ⟨mark, rest, rfl, hMark⟩ := hExponent.eq_nil_or_cons
    · rw [List.length_nil]
      omega
    · rw [List.cons_append] at hExponentLength ⊢
      rw [(not_continued_by_exponent hMark _).1, List.drop_zero]
      omega

/-- Where a number starts, the lexer takes the longest numeral that stands there. -/
theorem longestNumeral_iff {first : Char} {rest literal : List Char}
    (h : startsNumber first rest = true) :
    LongestNumeral literal (first :: rest)
      ↔ literal = first :: rest.take (numberLength first rest) := by
  have hTake : (first :: rest).take (numeralLength (first :: rest))
      = first :: rest.take (numberLength first rest) := by
    rw [numeralLength_cons h, List.take_succ_cons]
  have hLongest : LongestNumeral (first :: rest.take (numberLength first rest))
      (first :: rest) := by
    rw [← hTake]
    refine ⟨numeral_take h, List.take_prefix _ _, ?_⟩
    rintro candidate hCandidate ⟨more, hMore⟩
    have hLength := hCandidate.length_le more
    have hAll := congrArg List.length hMore
    rw [hMore] at hLength
    rw [List.length_append] at hAll
    rw [List.length_take]
    omega
  exact ⟨fun h => h.unique hLongest, fun h => h ▸ hLongest⟩

/-! ## Reading a numeral -/

theorem Fraction.eq_nil_or_cons {fraction : List Char} (h : Fraction fraction) :
    fraction = [] ∨ ∃ ds, fraction = '.' :: ds ∧ AllDigits ds := by
  cases h with
  | absent => exact .inl rfl
  | digits hDigits => exact .inr ⟨_, rfl, hDigits⟩

/-- A numeral starts with a digit, or with a point and a digit. -/
theorem Numeral.starts {literal : List Char} (h : Numeral literal) (more : List Char) :
    ∃ first rest, literal = first :: rest ∧ startsNumber first (rest ++ more) = true := by
  obtain @⟨whole, fraction, exponent, hWhole, hFraction, -, hDigit⟩ := h
  cases whole with
  | cons d whole =>
    refine ⟨d, _, rfl, ?_⟩
    rw [startsNumber, hWhole d List.mem_cons_self, Bool.true_or]
  | nil =>
    obtain rfl | ⟨ds, rfl, hDigits⟩ := hFraction.eq_nil_or_cons
    · exact absurd hDigit Bool.false_ne_true
    · cases ds with
      | nil => exact absurd hDigit (by decide)
      | cons d ds =>
        refine ⟨'.', _, rfl, ?_⟩
        have hFirst : d.isDigit = true := hDigits d List.mem_cons_self
        simp [startsNumber, hFirst]

theorem signed_of_startsNumber {first : Char} {rest : List Char}
    (h : startsNumber first rest = true) : signed (first :: rest) = (false, first :: rest) := by
  refine signed_of_ne ?_ ?_ rest <;> rintro rfl <;> exact absurd h (by simp [startsNumber])

theorem Exponent.reads {exponent : List Char} (h : Exponent exponent) :
    ∃ e, readExponent exponent = some e := by
  have hDigits : ∀ (negative : Bool) {ds : List Char}, ds ≠ [] → AllDigits ds →
      ∃ e, exponentOf negative ds = some e := by
    intro negative ds hNe hDigits
    have hAll : ds.all Char.isDigit = true := List.all_eq_true.2 hDigits
    cases negative <;> simp [exponentOf, hNe, hAll]
  cases h with
  | absent => exact ⟨0, rfl⟩
  | @plain mark ds hMark hNe h =>
    obtain ⟨d, ds, rfl⟩ := List.exists_cons_of_ne_nil hNe
    have hFirst := h d List.mem_cons_self
    have hSigned : signed (d :: ds) = (false, d :: ds) :=
      signed_of_ne (by rintro rfl; exact absurd hFirst (by decide))
        (by rintro rfl; exact absurd hFirst (by decide)) ds
    rw [readExponent_cons, if_neg (by tauto), hSigned]
    exact hDigits false hNe h
  | @withSign mark sign ds hMark hSign hNe h =>
    rw [readExponent_cons, if_neg (by tauto)]
    rcases hSign with rfl | rfl
    · exact hDigits false hNe h
    · exact hDigits true hNe h

theorem Exponent.not_continues {exponent : List Char} (h : Exponent exponent) :
    (∀ c ∈ exponent.head?, c.isDigit = false) ∧ fractionOf exponent = ([], exponent) := by
  obtain rfl | ⟨mark, ds, rfl, hMark⟩ := h.eq_nil_or_cons
  · exact ⟨by simp, rfl⟩
  · rcases hMark with rfl | rfl
    · exact ⟨by simp, rfl⟩
    · exact ⟨by simp, rfl⟩

/-- The digits before and after the point are those that are read, and what is left is the
    exponent. -/
theorem read_parts {whole fraction exponent : List Char} (hWhole : AllDigits whole)
    (hFraction : Fraction fraction) (hExponent : Exponent exponent)
    (hDigit : (whole ++ fraction).any Char.isDigit = true) :
    ∃ ds, (whole ++ fraction ++ exponent).takeWhile Char.isDigit = whole ∧
      fractionOf ((whole ++ fraction ++ exponent).dropWhile Char.isDigit) = (ds, exponent) ∧
      ¬ (whole = [] ∧ ds = []) := by
  obtain ⟨hNotDigit, hNoFraction⟩ := hExponent.not_continues
  rw [List.append_assoc]
  obtain rfl | ⟨ds, rfl, hDigits⟩ := hFraction.eq_nil_or_cons
  · obtain ⟨hTake, hDrop⟩ := takeWhile_digits exponent hWhole hNotDigit
    refine ⟨[], hTake, ?_, ?_⟩
    · rw [List.nil_append, hDrop, hNoFraction]
    · rintro ⟨rfl, -⟩
      exact absurd hDigit Bool.false_ne_true
  · obtain ⟨hTake, hDrop⟩ := takeWhile_digits ('.' :: (ds ++ exponent)) hWhole (by simp)
    obtain ⟨hTake', hDrop'⟩ := takeWhile_digits exponent hDigits hNotDigit
    refine ⟨ds, hTake, ?_, ?_⟩
    · rw [List.cons_append, hDrop, fractionOf, hTake', hDrop']
    · rintro ⟨rfl, rfl⟩
      exact absurd hDigit (by decide)

/-- Every numeral is read as a decimal. -/
theorem Numeral.reads {literal : List Char} (h : Numeral literal) :
    ∃ d, readNumber literal = some (.decimal d) := by
  obtain ⟨first, rest, hFirst, hStarts⟩ := h.starts []
  rw [List.append_nil] at hStarts
  rw [hFirst, readNumber_eq, signed_of_startsNumber hStarts, ← hFirst]
  obtain ⟨hWhole, hFraction, hExponent, hDigit⟩ := h
  obtain ⟨e, hReads⟩ := hExponent.reads
  obtain ⟨ds, hTake, hRest, hSome⟩ := read_parts hWhole hFraction hExponent hDigit
  simp only [readUnsigned, readMagnitude_eq, hTake, hRest, if_neg hSome, hReads, Option.map_some,
    Option.some.injEq, Reading.decimal.injEq, exists_eq']

/-! ## Overflow -/

/-- The double nearest to the number that a text gives is infinite. -/
def Overflows (literal : List Char) : Prop :=
  ∃ d, readNumber literal = some (.decimal d) ∧ d.encode binary64 = binary64.infinityCode

theorem encode_le_infinityCode (d : Decimal) : d.encode binary64 ≤ binary64.infinityCode := by
  have hAll : ∀ num den, binary64.encode num den ≤ binary64.infinityCode := by
    intro num den
    rw [BinaryFormat.encode]
    split
    · exact Nat.zero_le _
    · exact Nat.min_le_right _ _
  unfold Decimal.encode
  split
  · exact Nat.zero_le _
  · split
    · exact Nat.le_refl _
    · split
      · exact Nat.zero_le _
      · exact hAll _ _

theorem isFinite_toFloat_iff (d : Decimal) :
    d.toFloat.isFinite = true ↔ d.encode binary64 ≠ binary64.infinityCode := by
  constructor
  · intro hFinite hInfinite
    have hCode : ∀ negative, code (ofCode negative binary64.infinityCode)
        = binary64.infinityCode := by decide +kernel
    rw [isFinite_iff, Decimal.toFloat, hInfinite, hCode] at hFinite
    exact absurd hFinite (Nat.lt_irrefl _)
  · exact fun h => isFinite_ofCode (Nat.lt_of_le_of_ne (encode_le_infinityCode d) h)

/-- A numeral is refused exactly if it overflows. -/
theorem scan_eq_none_iff {first : Char} {rest literal : List Char}
    (h : LongestNumeral literal (first :: rest)) :
    scan first rest = none ↔ Overflows literal := by
  obtain ⟨more, hMore⟩ := h.starts
  obtain ⟨c, cs, hLiteral, hStarts⟩ := h.numeral.starts more
  obtain ⟨rfl, rfl⟩ : c = first ∧ cs ++ more = rest := by
    rw [hLiteral] at hMore
    exact List.cons.inj hMore
  obtain ⟨d, hReads⟩ := h.numeral.reads
  have hQuote : ∀ quote, isQuote quote = true → c ≠ quote := by
    rintro quote hQuote rfl
    simp only [isQuote, Bool.or_eq_true, beq_iff_eq] at hQuote
    rcases hQuote with rfl | rfl <;> exact absurd hStarts (by simp [startsNumber])
  rw [scan, if_neg (hQuote _ rfl), if_neg (hQuote _ rfl), if_pos hStarts, scanNumber,
    ← (longestNumeral_iff hStarts).1 h, readFloat, hReads]
  have hOverflows : Overflows literal ↔ ¬ d.toFloat.isFinite = true := by
    rw [isFinite_toFloat_iff, not_not, Overflows, hReads]
    simp
  rw [hOverflows]
  show ((some d.toFloat).filter Float.isFinite).map _ = none ↔ _
  rw [Option.map_eq_none_iff, Option.filter_some]
  cases d.toFloat.isFinite <;> simp

end GeoFilter.Cql
