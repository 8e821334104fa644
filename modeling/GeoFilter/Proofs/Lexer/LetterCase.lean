import GeoFilter.Proofs.Lexer.Append
import GeoFilter.Proofs.Number.LetterCase

set_option autoImplicit false

/-! # Scanning text in upper case

Outside quotes a token ends at the same place in a text and in the text in upper case, and it is
the same token but for the letters of names and of geometry literals. -/

namespace GeoFilter.Cql

open Text

/-! ## Lengths -/

theorem ignoresCase_isSpace : IgnoresCase isSpace := by decide

theorem ignoresCase_startsWord : IgnoresCase startsWord := by decide

theorem ignoresCase_continuesWord : IgnoresCase continuesWord := by decide

theorem runLength_upper {test : Char → Bool} (h : IgnoresCase test) (cs : List Char) :
    runLength test (cs.map Char.toUpper) = runLength test cs := by
  rw [runLength, takeWhile_upper h, List.length_map, runLength]

theorem fractionLength_upper (cs : List Char) :
    fractionLength (cs.map Char.toUpper) = fractionLength cs := by
  cases cs with
  | nil => rfl
  | cons c cs =>
    have hPoint := toUpper_eq_iff (m := '.') (by decide) c
    by_cases h : c = '.'
    · subst h
      show 1 + runLength _ _ = 1 + runLength _ _
      rw [runLength_upper Number.ignoresCase_isDigit]
    · simp [fractionLength, h, hPoint]

theorem exponentLength_upper (cs : List Char) :
    exponentLength (cs.map Char.toUpper) = exponentLength cs := by
  have hDigits := fun cs => runLength_upper Number.ignoresCase_isDigit cs
  cases cs with
  | nil => rfl
  | cons e cs =>
    have hTest : IgnoresCase fun c => c == 'e' || c == 'E' := by decide
    have hMark : (e.toUpper = 'e' ∨ e.toUpper = 'E') ↔ (e = 'e' ∨ e = 'E') := by
      simpa only [Bool.or_eq_true, beq_iff_eq] using Bool.eq_iff_iff.1 (hTest e)
    cases cs with
    | nil => simp only [List.map_cons, List.map_nil, exponentLength, hMark]
    | cons sign digits =>
      have hPlus := toUpper_eq_iff (m := '+') (by decide) sign
      have hMinus := toUpper_eq_iff (m := '-') (by decide) sign
      have hAll := hDigits (sign :: digits)
      rw [List.map_cons] at hAll
      simp only [List.map_cons, exponentLength, hMark, hPlus, hMinus, hDigits, hAll]

theorem numberLength_upper (first : Char) (rest : List Char) :
    numberLength first.toUpper (rest.map Char.toUpper) = numberLength first rest := by
  have hPoint := toUpper_eq_iff (m := '.') (by decide) first
  simp only [numberLength, runLength_upper Number.ignoresCase_isDigit, ← List.map_drop,
    fractionLength_upper, exponentLength_upper, hPoint]

/-! ## Geometry literals -/

theorem closingLength_upper (depth : ℕ) (cs : List Char) :
    closingLength depth (cs.map Char.toUpper) = closingLength depth cs := by
  induction cs generalizing depth with
  | nil => rfl
  | cons c cs ih =>
    have hOpening := toUpper_eq_iff (m := '(') (by decide) c
    have hClosing := toUpper_eq_iff (m := ')') (by decide) c
    rw [List.map_cons, closingLength_cons, closingLength_cons]
    simp only [hOpening, hClosing, ih]

theorem markerLength_upper (cs : List Char) :
    markerLength (cs.map Char.toUpper) = markerLength cs := by
  rw [markerLength, ← List.map_take, upper_upper, markerLength]

theorem dimensionLength_upper (cs : List Char) :
    dimensionLength (cs.map Char.toUpper) = dimensionLength cs := by
  rw [dimensionLength_eq, markerLength_upper, ← List.map_drop,
    runLength_upper ignoresCase_isSpace, dimensionLength_eq]

theorem bodyStart_upper (cs : List Char) : bodyStart (cs.map Char.toUpper) = bodyStart cs := by
  rw [bodyStart, runLength_upper ignoresCase_isSpace, ← List.map_drop, dimensionLength_upper,
    bodyStart]

theorem bodyTail_upper (start : ℕ) (body : List Char) :
    bodyTail start (body.map Char.toUpper) = bodyTail start body := by
  by_cases h : body.head? = some '('
  · obtain ⟨body, rfl⟩ := List.head?_eq_some_iff.1 h
    show bodyTail start ('(' :: body.map Char.toUpper) = bodyTail start ('(' :: body)
    rw [bodyTail_opening, bodyTail_opening, closingLength_upper]
  · have hUpper : (body.map Char.toUpper).head? ≠ some '(' := by
      cases body with
      | nil => exact h
      | cons c body =>
        have hOpening := toUpper_eq_iff (m := '(') (by decide) c
        simpa [hOpening] using h
    rw [bodyTail_other start hUpper, bodyTail_other start h, ← List.map_take, upper_upper]

theorem literalTail_upper (cs : List Char) :
    literalTail (cs.map Char.toUpper) = literalTail cs := by
  rw [literalTail_eq, bodyStart_upper, ← List.map_drop, bodyTail_upper, literalTail_eq]

/-! ## Tokens -/

/-- The token with the letters of a name or of a geometry literal in upper case. -/
def TokenKind.upper : TokenKind → TokenKind
  | .name word => .name (Text.upper word)
  | .geometry source => .geometry (Text.upper source)
  | kind => kind

theorem upper_ofList (cs : List Char) :
    Text.upper (String.ofList cs) = String.ofList (cs.map Char.toUpper) := by
  rw [Text.upper, String.toList_ofList]

theorem ofWord?_upper (word : String) :
    Keyword.ofWord? (Text.upper word) = Keyword.ofWord? word := by
  simp only [Keyword.ofWord?, sameLetters_upper]

theorem isGeometryWord_upper (word : String) :
    isGeometryWord (Text.upper word) = isGeometryWord word := by
  simp only [isGeometryWord, sameLetters_upper]

theorem plainWord_upper (word : String) : plainWord (Text.upper word) = (plainWord word).upper := by
  unfold plainWord
  rw [ofWord?_upper]
  split <;> rfl

theorem scanWord_upper (first : Char) (rest : List Char) :
    scanWord first.toUpper (rest.map Char.toUpper)
      = (scanWord first rest).map fun (kind, n) => (kind.upper, n) := by
  have hText : ∀ n, String.ofList (first.toUpper :: (rest.map Char.toUpper).take n)
      = Text.upper (String.ofList (first :: rest.take n)) := by
    intro n
    rw [upper_ofList, List.map_cons, List.map_take]
  rw [scanWord_eq, scanWord_eq]
  simp only [runLength_upper ignoresCase_continuesWord, hText, isGeometryWord_upper,
    plainWord_upper, ← List.map_drop, literalTail_upper]
  split
  · split <;> simp only [Option.map_some, Option.map_none, TokenKind.upper]
  · rfl

theorem scanNumber_upper (first : Char) (rest : List Char) :
    scanNumber first.toUpper (rest.map Char.toUpper)
      = (scanNumber first rest).map fun (kind, n) => (kind.upper, n) := by
  have hText : ∀ n, first.toUpper :: (rest.map Char.toUpper).take n
      = (first :: rest.take n).map Char.toUpper := by
    intro n
    rw [List.map_cons, List.map_take]
  simp only [scanNumber, numberLength_upper, hText, Number.readFloat_upper, Option.map_map]
  congr 1

theorem startsNumber_upper (first : Char) (rest : List Char) :
    startsNumber first.toUpper (rest.map Char.toUpper) = startsNumber first rest := by
  have hTest : IgnoresCase (· == '.') := by decide
  have hPoint : (first.toUpper == '.') = (first == '.') := hTest first
  rw [startsNumber, startsNumber, Number.ignoresCase_isDigit, hPoint]
  cases rest with
  | nil => rfl
  | cons c rest =>
    simp only [List.map_cons, List.head?_cons, Option.any_some, Number.ignoresCase_isDigit c]

/-- The characters that an operator or a punctuation mark starts with. -/
def markChars : List Char := ['<', '>', '!', '=', '(', ')', ',', '+', '-', '*', '/']

theorem scanMark_none {first : Char} (h : first ∉ markChars) (rest : List Char) :
    scanMark first rest = none := by
  unfold scanMark
  split <;> simp_all [markChars]

theorem scanMark_upper (first : Char) (rest : List Char) :
    scanMark first.toUpper (rest.map Char.toUpper)
      = (scanMark first rest).map fun (kind, n) => (kind.upper, n) := by
  have hFixed : ∀ rest, (scanMark first rest).map (fun (kind, n) => (kind.upper, n))
      = scanMark first rest := by
    intro rest
    unfold scanMark
    split <;> rfl
  rw [hFixed]
  rcases toUpper_eq_or_small first with hFirst | ⟨k, rfl⟩
  · rw [hFirst]
    cases rest with
    | nil => rfl
    | cons c rest =>
      rw [List.map_cons]
      rcases toUpper_eq_or_small c with hc | ⟨k, rfl⟩
      · rw [hc, scanMark_head first c _ rest]
      · have hOther : ∀ k : Fin 26, (Char.ofNat (97 + k) ≠ '=' ∧ Char.ofNat (97 + k) ≠ '>') ∧
            (Char.ofNat (97 + k)).toUpper ≠ '=' ∧ (Char.ofNat (97 + k)).toUpper ≠ '>' := by decide
        obtain ⟨⟨hEq, hGt⟩, hEq', hGt'⟩ := hOther k
        rw [scanMark_other first hEq hGt, scanMark_other first hEq' hGt']
  · have hMark : ∀ k : Fin 26, Char.ofNat (97 + k) ∉ markChars ∧
        (Char.ofNat (97 + k)).toUpper ∉ markChars := by decide
    rw [scanMark_none (hMark k).1, scanMark_none (hMark k).2]

/-- Outside quotes the text in upper case has the same token, in upper case. -/
theorem scan_upper {first : Char} (hText : first ≠ '\'') (hName : first ≠ '"') (rest : List Char) :
    scan first.toUpper (rest.map Char.toUpper)
      = (scan first rest).map fun (kind, n) => (kind.upper, n) := by
  have hText' := mt (toUpper_eq_iff (m := '\'') (by decide) first).1 hText
  have hName' := mt (toUpper_eq_iff (m := '"') (by decide) first).1 hName
  rw [scan, if_neg hText', if_neg hName', startsNumber_upper, ignoresCase_startsWord, scan,
    if_neg hText, if_neg hName]
  split
  · exact scanNumber_upper first rest
  · split
    · exact scanWord_upper first rest
    · exact scanMark_upper first rest

end GeoFilter.Cql
