import GeoFilter.Proofs.Number.Notation
import GeoFilter.Proofs.Text.Letters

set_option autoImplicit false

/-! # Letter case in number text

The letters in number text are the mark of an exponent and the words for infinity and NaN. They are
read in either case, and besides them there are digits, points and signs only. -/

namespace GeoFilter.Number

open Text

theorem ignoresCase_isDigit : IgnoresCase Char.isDigit := by decide

/-- Digits have no case. -/
theorem AllDigits.upper {cs : List Char} (h : AllDigits cs) : cs.map Char.toUpper = cs := by
  refine (List.map_congr_left fun c hc => ?_).trans (List.map_id cs)
  have hDigit := h c hc
  refine Char.toUpper_eq_of_not_isLower ?_
  simp only [Char.isDigit, Char.isLower, Bool.and_eq_true, decide_eq_true_eq, ge_iff_le,
    UInt32.le_iff_toNat_le] at hDigit ⊢
  exact fun hLower => absurd (Nat.le_trans hLower.1 hDigit.2) (by decide)

/-! ## Signs -/

/-- A text after its sign, and whether that is a minus sign. -/
def signed : List Char → Bool × List Char
  | '-' :: rest => (true, rest)
  | '+' :: rest => (false, rest)
  | cs => (false, cs)

theorem signed_of_ne {c : Char} (h : c ≠ '-') (h' : c ≠ '+') (cs : List Char) :
    signed (c :: cs) = (false, c :: cs) := by
  simp [signed, h, h']

theorem signed_upper (cs : List Char) :
    signed (cs.map Char.toUpper) = ((signed cs).1, (signed cs).2.map Char.toUpper) := by
  cases cs with
  | nil => rfl
  | cons c cs =>
    have hMinus := toUpper_eq_iff (m := '-') (by decide) c
    have hPlus := toUpper_eq_iff (m := '+') (by decide) c
    by_cases h : c = '-'
    · subst h
      rfl
    · by_cases h' : c = '+'
      · subst h'
        rfl
      · rw [List.map_cons, signed_of_ne (mt hMinus.1 h) (mt hPlus.1 h'), signed_of_ne h h',
          List.map_cons]

/-! ## Exponents -/

/-- The power of ten that the digits of an exponent spell. -/
def exponentOf (negative : Bool) (digits : List Char) : Option Int :=
  if digits.isEmpty ∨ ¬ digits.all Char.isDigit then none
  else if negative then some (-(natOfDigits digits : Int))
  else some (natOfDigits digits : Int)

theorem readExponent_cons (mark : Char) (cs : List Char) :
    readExponent (mark :: cs) =
      if mark ≠ 'e' ∧ mark ≠ 'E' then none else exponentOf (signed cs).1 (signed cs).2 := by
  rewrite [readExponent.eq_def]
  dsimp only
  split
  · rfl
  · split
    · rfl
    · rfl
    · next hMinus hPlus =>
      rw [signed.eq_3 _ hMinus hPlus]
      rfl

theorem exponentOf_upper (negative : Bool) (digits : List Char) :
    exponentOf negative (digits.map Char.toUpper) = exponentOf negative digits := by
  by_cases h : digits.all Char.isDigit = true
  · rw [AllDigits.upper (List.all_eq_true.1 h)]
  · have hAll : (digits.map Char.toUpper).all Char.isDigit = digits.all Char.isDigit := by
      rw [List.all_map, show Char.isDigit ∘ Char.toUpper = Char.isDigit from
        funext ignoresCase_isDigit]
    rw [exponentOf, exponentOf, hAll, if_pos (.inr h), if_pos (.inr h)]

theorem readExponent_upper (cs : List Char) :
    readExponent (cs.map Char.toUpper) = readExponent cs := by
  cases cs with
  | nil => rfl
  | cons mark cs =>
    have hTest : IgnoresCase fun c => c != 'e' && c != 'E' := by decide
    have hMark : (mark.toUpper ≠ 'e' ∧ mark.toUpper ≠ 'E') ↔ (mark ≠ 'e' ∧ mark ≠ 'E') := by
      simpa only [Bool.and_eq_true, bne_iff_ne] using Bool.eq_iff_iff.1 (hTest mark)
    rw [List.map_cons, readExponent_cons, readExponent_cons, signed_upper, exponentOf_upper,
      if_congr hMark rfl rfl]

/-! ## Decimals -/

/-- A text after its point, if it starts with one: the digits there, and what follows them. -/
def fractionOf : List Char → List Char × List Char
  | '.' :: rest => (rest.takeWhile Char.isDigit, rest.dropWhile Char.isDigit)
  | cs => ([], cs)

theorem readMagnitude_eq (negative : Bool) (cs : List Char) :
    readMagnitude negative cs =
      if cs.takeWhile Char.isDigit = [] ∧ (fractionOf (cs.dropWhile Char.isDigit)).1 = [] then none
      else (readExponent (fractionOf (cs.dropWhile Char.isDigit)).2).map fun e =>
        ⟨negative, natOfDigits (cs.takeWhile Char.isDigit
          ++ (fractionOf (cs.dropWhile Char.isDigit)).1),
          e - (fractionOf (cs.dropWhile Char.isDigit)).1.length⟩ := by
  unfold readMagnitude
  rcases cs.dropWhile Char.isDigit with _ | ⟨c, rest⟩
  · simp [fractionOf]
  · by_cases h : c = '.'
    · subst h
      simp [fractionOf]
    · simp [fractionOf, h]

theorem fractionOf_upper (cs : List Char) :
    fractionOf (cs.map Char.toUpper)
      = ((fractionOf cs).1.map Char.toUpper, (fractionOf cs).2.map Char.toUpper) := by
  cases cs with
  | nil => rfl
  | cons c cs =>
    have hPoint := toUpper_eq_iff (m := '.') (by decide) c
    by_cases h : c = '.'
    · subst h
      exact Prod.ext (takeWhile_upper ignoresCase_isDigit cs)
        (dropWhile_upper ignoresCase_isDigit cs)
    · simp [fractionOf, h, hPoint]

theorem allDigits_takeWhile (cs : List Char) : AllDigits (cs.takeWhile Char.isDigit) :=
  fun _ hc => List.mem_takeWhile_imp hc

theorem allDigits_fractionOf (cs : List Char) : AllDigits (fractionOf cs).1 := by
  unfold fractionOf
  split
  · exact allDigits_takeWhile _
  · exact fun _ hc => nomatch hc

theorem readMagnitude_upper (negative : Bool) (cs : List Char) :
    readMagnitude negative (cs.map Char.toUpper) = readMagnitude negative cs := by
  rw [readMagnitude_eq, readMagnitude_eq, takeWhile_upper ignoresCase_isDigit,
    dropWhile_upper ignoresCase_isDigit, fractionOf_upper, readExponent_upper,
    (allDigits_takeWhile cs).upper, (allDigits_fractionOf _).upper]

/-! ## Numbers -/

theorem readUnsigned_upper (negative : Bool) (cs : List Char) :
    readUnsigned negative (cs.map Char.toUpper) = readUnsigned negative cs := by
  have hLower : (cs.map Char.toUpper).map Char.toLower = cs.map Char.toLower := by
    rw [List.map_map]
    exact List.map_congr_left fun c _ => Char.toLower_toUpper_eq_toLower c
  rw [readUnsigned, readMagnitude_upper, hLower, readUnsigned]

theorem readNumber_eq (cs : List Char) :
    readNumber cs = readUnsigned (signed cs).1 (signed cs).2 := by
  unfold readNumber
  split
  · rfl
  · rfl
  · next hMinus hPlus => rw [signed.eq_3 _ hMinus hPlus]

/-- Number text is read in either case. -/
theorem readFloat_upper (cs : List Char) : readFloat (cs.map Char.toUpper) = readFloat cs := by
  rw [readFloat, readNumber_eq, signed_upper, readUnsigned_upper, ← readNumber_eq, readFloat]

/-! ## The characters of a number -/

/-- A character that number text can hold. -/
def isNumberMark (c : Char) : Bool := c.isAlphanum || c == '.' || c == '+' || c == '-'

/-- All characters can stand in number text. -/
def AllMarks (cs : List Char) : Prop := ∀ c ∈ cs, isNumberMark c = true

instance (cs : List Char) : Decidable (AllMarks cs) :=
  decidable_of_iff (cs.all isNumberMark = true) List.all_eq_true

theorem AllDigits.marks {cs : List Char} (h : AllDigits cs) : AllMarks cs :=
  fun c hc => by simp [isNumberMark, Char.isAlphanum, h c hc]

theorem AllMarks.cons {c : Char} {cs : List Char} (hc : isNumberMark c = true) (h : AllMarks cs) :
    AllMarks (c :: cs) := List.forall_mem_cons.2 ⟨hc, h⟩

theorem AllMarks.append {cs cs' : List Char} (h : AllMarks cs) (h' : AllMarks cs') :
    AllMarks (cs ++ cs') := List.forall_mem_append.2 ⟨h, h'⟩

theorem marks_of_signed {cs : List Char} (h : AllMarks (signed cs).2) : AllMarks cs := by
  unfold signed at h
  split at h
  · exact .cons rfl h
  · exact .cons rfl h
  · exact h

theorem marks_of_readExponent {cs : List Char} {e : Int} (h : readExponent cs = some e) :
    AllMarks cs := by
  cases cs with
  | nil => exact fun _ hc => nomatch hc
  | cons mark cs =>
    rw [readExponent_cons] at h
    split at h
    · exact absurd h (by simp)
    · next hMark =>
      refine .cons ?_ (marks_of_signed ?_)
      · by_cases hSmall : mark = 'e'
        · subst hSmall
          rfl
        · obtain rfl : mark = 'E' := not_not.1 fun hLarge => hMark ⟨hSmall, hLarge⟩
          rfl
      · unfold exponentOf at h
        split at h
        · exact absurd h (by simp)
        · next hDigits =>
          rw [not_or, not_not, List.all_eq_true] at hDigits
          exact AllDigits.marks hDigits.2

theorem marks_of_fractionOf {cs : List Char} (h : AllMarks (fractionOf cs).2) : AllMarks cs := by
  unfold fractionOf at h
  split at h
  · next rest =>
    have hRest : AllMarks (rest.takeWhile Char.isDigit ++ rest.dropWhile Char.isDigit) :=
      (allDigits_takeWhile rest).marks.append h
    rw [List.takeWhile_append_dropWhile] at hRest
    exact .cons rfl hRest
  · exact h

theorem marks_of_readMagnitude {negative : Bool} {cs : List Char} {d : Decimal}
    (h : readMagnitude negative cs = some d) : AllMarks cs := by
  rw [readMagnitude_eq] at h
  split at h
  · exact absurd h (by simp)
  · obtain ⟨e, hExponent, -⟩ := Option.map_eq_some_iff.1 h
    have hAfter := marks_of_fractionOf (marks_of_readExponent hExponent)
    have hAll := (allDigits_takeWhile cs).marks.append hAfter
    rwa [List.takeWhile_append_dropWhile] at hAll

/-- A word that is a given one in lower case has letters only. -/
theorem marks_of_word {cs : List Char} {word : String}
    (h : String.ofList (cs.map Char.toLower) = word) (hWord : word.toList.all Char.isAlpha = true) :
    AllMarks cs := by
  intro c hc
  have hMem : c.toLower ∈ word.toList := by
    rw [← h, String.toList_ofList]
    exact List.mem_map_of_mem hc
  have hAlpha := List.all_eq_true.1 hWord _ hMem
  rw [Char.isAlpha_toLower_eq_isAlpha] at hAlpha
  simp [isNumberMark, Char.isAlphanum, hAlpha]

theorem marks_of_readUnsigned {negative : Bool} {cs : List Char} {r : Reading}
    (h : readUnsigned negative cs = some r) : AllMarks cs := by
  unfold readUnsigned at h
  split at h
  · next hMagnitude => exact marks_of_readMagnitude hMagnitude
  · dsimp only at h
    split at h
    · next hWord => rcases hWord with hWord | hWord <;> exact marks_of_word hWord (by decide)
    · split at h
      · next hWord => exact marks_of_word hWord (by decide)
      · exact absurd h (by simp)

/-- What is read as a number holds no other characters. -/
theorem marks_of_readFloat {cs : List Char} {x : Float} (h : readFloat cs = some x) :
    AllMarks cs := by
  obtain ⟨r, hNumber, -⟩ := Option.map_eq_some_iff.1 h
  rw [readNumber_eq] at hNumber
  exact marks_of_signed (marks_of_readUnsigned hNumber)

end GeoFilter.Number
