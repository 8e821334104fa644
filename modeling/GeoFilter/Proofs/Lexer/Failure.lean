import GeoFilter.Proofs.Lexer.Numeral
import GeoFilter.Proofs.Location

set_option autoImplicit false

/-! # Where cutting a text fails

A text is cut into tokens up to the first place where none starts. The error for that place is told
from the character there and from the text up to the next blank, not from what the lexer tried to
read. So a number that overflows is named only where a blank or the end follows it, and only if it
starts with a digit; and a blank that is none of the characters between tokens is not part of the
token that the error shows. -/

namespace GeoFilter.Cql

open Number

/-! ## The first failure -/

/-- The text is `before`, which is tokens and the spaces around them, and then `first :: rest`,
    where no token starts. -/
structure FailsAt (source : String) (before : List Char) (first : Char) (rest : List Char) :
    Prop where
  text : source.toList = before ++ first :: rest
  cuts : ∃ ks, Cuts source.toList ks (first :: rest)
  notSpace : isSpace first = false
  noToken : scan first rest = none

/-- The failure ends the cutting, at its offset. -/
theorem tokensFrom_of_cuts_failing {first : Char} {rest cs : List Char} {ks : List TokenKind}
    (h : Cuts cs ks (first :: rest)) (hSpace : isSpace first = false)
    (hToken : scan first rest = none) :
    ∃ before, cs = before ++ first :: rest ∧ ∀ offset,
      tokensFrom offset cs = .error (scanError (offset + byteLength before) first rest) := by
  -- The induction needs the end of the cut as a variable; only `done` uses it.
  generalize hRest : first :: rest = after at h
  induction h with
  | done =>
    subst hRest
    refine ⟨[], rfl, fun offset => ?_⟩
    have hNot : ¬ isSpace first = true := by simp [hSpace]
    rw [tokensFrom_eq]
    simp only [List.dropWhile_cons_of_neg hNot, List.takeWhile_cons_of_neg hNot, hToken]
  | @space c cs after ks hc _ ih =>
    obtain ⟨before, rfl, hTokens⟩ := ih hRest
    refine ⟨c :: before, rfl, fun offset => ?_⟩
    rw [tokensFrom_space hc, hTokens, byteLength, Nat.add_assoc]
  | @token c cs after kind n ks hc _ ih =>
    obtain ⟨before, hBefore, hTokens⟩ := ih hRest
    subst hRest
    refine ⟨c :: (cs.take n ++ before), ?_, fun offset => ?_⟩
    · rw [List.cons_append, List.append_assoc, ← hBefore, List.take_append_drop]
    · rw [tokensFrom_token hc, hTokens, ← List.cons_append, byteLength_append, Nat.add_assoc]
      rfl

theorem FailsAt.tokens_eq {source : String} {before : List Char} {first : Char} {rest : List Char}
    (h : FailsAt source before first rest) :
    tokens source = .error (scanError (byteLength before) first rest) := by
  obtain ⟨ks, hCuts⟩ := h.cuts
  obtain ⟨before', hText, hTokens⟩ := tokensFrom_of_cuts_failing hCuts h.notSpace h.noToken
  rw [h.text] at hText
  rw [tokens, hTokens, Nat.zero_add, List.append_cancel_right hText]

theorem exists_cuts_of_tokensFrom {offset : ℕ} {cs : List Char} {e : SyntaxError}
    (h : tokensFrom offset cs = .error e) :
    ∃ before first rest ks, cs = before ++ first :: rest ∧ Cuts cs ks (first :: rest) ∧
      isSpace first = false ∧ scan first rest = none := by
  cases hcs : cs with
  | nil =>
    rw [hcs, tokensFrom_eq] at h
    exact nomatch h
  | cons first rest =>
    rw [hcs] at h
    -- A space is skipped, a token is cut off, and every other character is the failure.
    by_cases hSpace : isSpace first
    · rw [tokensFrom_space hSpace] at h
      obtain ⟨before, c, after, ks, rfl, hCuts, hc⟩ := exists_cuts_of_tokensFrom h
      exact ⟨first :: before, c, after, ks, rfl, .space hSpace hCuts, hc⟩
    · cases hScan : scan first rest with
      | none => exact ⟨[], first, rest, [], rfl, .done, Bool.not_eq_true _ ▸ hSpace, hScan⟩
      | some token =>
        obtain ⟨kind, n⟩ := token
        rw [tokensFrom_token hScan] at h
        cases hMore : tokensFrom (offset + byteLength (first :: rest.take n)) (rest.drop n) with
        | ok others =>
          rw [hMore] at h
          exact nomatch h
        | error e' =>
          obtain ⟨before, c, after, ks, hText, hCuts, hc⟩ := exists_cuts_of_tokensFrom hMore
          refine ⟨first :: (rest.take n ++ before), c, after, kind :: ks, ?_,
            .token hScan hCuts, hc⟩
          rw [List.cons_append, List.append_assoc, ← hText, List.take_append_drop]
  termination_by cs.length
  decreasing_by all_goals simp only [hcs, List.length_cons, List.length_drop]; omega

/-- Cutting a text fails exactly for its first failure. -/
theorem tokens_eq_error_iff {source : String} {e : SyntaxError} :
    tokens source = .error e ↔ ∃ before first rest, FailsAt source before first rest ∧
      e = scanError (byteLength before) first rest := by
  constructor
  · intro h
    obtain ⟨before, first, rest, ks, hText, hCuts, hSpace, hToken⟩ := exists_cuts_of_tokensFrom h
    have hFails : FailsAt source before first rest := ⟨hText, ⟨ks, hCuts⟩, hSpace, hToken⟩
    exact ⟨before, first, rest, hFails, Except.error.inj (h.symm.trans hFails.tokens_eq)⟩
  · rintro ⟨before, first, rest, hFails, rfl⟩
    exact hFails.tokens_eq

theorem FailsAt.parse_eq {source : String} {before : List Char} {first : Char} {rest : List Char}
    (h : FailsAt source before first rest) (m : ℕ) :
    parse source m = .error (scanError (byteLength before) first rest) :=
  parse_of_tokens_error h.tokens_eq m

/-! ## The word that the error shows -/

/-- The text up to the first blank. -/
def word (cs : List Char) : String := String.ofList (cs.takeWhile fun c => !Text.isBlank c)

theorem not_isBlank_of_isNumberMark {c : Char} (h : isNumberMark c = true) :
    Text.isBlank c = false := by
  have hSmall : c.toNat < 128 := by
    simp only [isNumberMark, Char.isAlphanum, Char.isAlpha, Char.isUpper, Char.isLower,
      Char.isDigit, Bool.or_eq_true, Bool.and_eq_true, decide_eq_true_eq, beq_iff_eq, ge_iff_le,
      UInt32.le_iff_toNat_le] at h
    rcases h with ((((h | h) | h) | rfl) | rfl) | rfl
    · exact Nat.lt_of_le_of_lt h.2 (by decide)
    · exact Nat.lt_of_le_of_lt h.2 (by decide)
    · exact Nat.lt_of_le_of_lt h.2 (by decide)
    all_goals decide
  have hAll : ∀ k : Fin 128, isNumberMark (Char.ofNat k) = true →
      Text.isBlank (Char.ofNat k) = false := by decide
  have hChar := hAll ⟨c.toNat, hSmall⟩
  rw [Char.ofNat_toNat] at hChar
  exact hChar h

/-- The word at a numeral goes on after it up to the first blank. -/
theorem word_numeral {literal : List Char} (h : Numeral literal) (after : List Char) :
    word (literal ++ after) = String.ofList literal ++ word after := by
  obtain ⟨d, hReads⟩ := h.reads
  have hMarks : AllMarks literal := by
    refine marks_of_readFloat (x := d.toFloat) ?_
    rw [readFloat, hReads]
    rfl
  have hNone : ∀ c ∈ literal, (!Text.isBlank c) = true := by
    intro c hc
    rw [not_isBlank_of_isNumberMark (hMarks c hc)]
    rfl
  rw [word, List.takeWhile_append_of_pos hNone, String.ofList_append, word]

theorem word_eq_empty_iff (cs : List Char) :
    word cs = "" ↔ ∀ c ∈ cs.head?, Text.isBlank c = true := by
  rw [word, String.ofList_eq_empty_iff]
  cases cs with
  | nil => simp
  | cons c cs => cases hc : Text.isBlank c <;> simp [hc]

/-- The word starts with the first character unless that is a blank. -/
theorem head_word_iff (first : Char) (rest : List Char) :
    (word (first :: rest)).toList.head? = some first ↔ Text.isBlank first = false := by
  rw [word, String.toList_ofList]
  cases hFirst : Text.isBlank first <;> simp [hFirst]

/-! ## The error for the first failure -/

/-- The error that names a number at an offset. -/
def overflowError (offset : ℕ) (literal : List Char) : SyntaxError :=
  ⟨.invalidNumber (String.ofList literal), offset, some (String.ofList literal)⟩

/-- No quote, no number and no word starts here. -/
def Stray (first : Char) (rest : List Char) : Prop :=
  isQuote first = false ∧ startsNumber first rest = false ∧ startsWord first = false

/-- Where a stray character stands, only a mark can start. -/
theorem scan_of_stray {first : Char} {rest : List Char} (h : Stray first rest) :
    scan first rest = scanMark first rest := by
  obtain ⟨hQuote, hNumber, hWord⟩ := h
  simp only [isQuote, Bool.or_eq_false_iff, beq_eq_false_iff_ne] at hQuote
  rw [scan, if_neg hQuote.1, if_neg hQuote.2, hNumber, if_neg Bool.false_ne_true, hWord,
    if_neg Bool.false_ne_true]

theorem scanWord_alone (first : Char) : ∃ token, scanWord first [] = some token := by
  have hShort : ¬ isGeometryWord (String.ofList [first]) = true := by
    simp [isGeometryWord, geometryWords, Text.sameLetters]
  exact ⟨_, if_neg hShort⟩

/-- A character that starts no token, whatever follows it, is stray. -/
theorem stray_of_no_token {first : Char} (h : ∀ rest, scan first rest = none) (rest : List Char) :
    Stray first rest := by
  have hStarts : ∀ c rest, (scan c rest).isSome = true → first ≠ c := by
    rintro c rest hSome rfl
    rw [h rest] at hSome
    exact absurd hSome Bool.false_ne_true
  refine ⟨?_, ?_, ?_⟩
  · have hText := hStarts '\'' ['\''] rfl
    have hName := hStarts '"' ['"'] rfl
    simp [isQuote, hText, hName]
  · have hPoint := hStarts '.' ['0'] (by decide +kernel)
    have hDigit : first.isDigit = false := by
      rw [← Bool.not_eq_true]
      intro hDigit
      obtain ⟨k, hk⟩ := eq_of_isDigit hDigit
      have hAll : ∀ k : Fin 10, (scan (Char.ofNat (48 + k)) []).isSome = true := by decide +kernel
      exact hStarts _ [] (hAll k) hk
    simp [startsNumber, hDigit, hPoint]
  · rw [← Bool.not_eq_true]
    intro hWord
    obtain ⟨token, hToken⟩ := scanWord_alone first
    rw [← scan_of_startsWord hWord, h []] at hToken
    exact absurd hToken (Option.some_ne_none token).symm

section

variable {source : String} {before : List Char} {first : Char} {rest : List Char}

theorem FailsAt.parse_numeral (h : FailsAt source before first rest)
    (hNumber : startsNumber first rest = true) (m : ℕ) :
    parse source m = .error
      ⟨if first = '.' then .invalidCharacter '.' else .invalidNumber (word (first :: rest)),
        byteLength before, some (word (first :: rest))⟩ := by
  rw [h.parse_eq]
  by_cases hPoint : first = '.'
  · subst hPoint
    rfl
  · have hDigit : first.isDigit = true := by simpa [startsNumber, hPoint] using hNumber
    have hQuote : ¬ (first = '\'' ∨ first = '"') := by
      rintro (rfl | rfl) <;> exact absurd hDigit (by decide)
    rw [if_neg hPoint, scanError, if_neg hQuote, if_pos hDigit, word]

theorem FailsAt.parse_stray (h : FailsAt source before first rest) (hStray : Stray first rest)
    (m : ℕ) :
    parse source m = .error
      ⟨.invalidCharacter first, byteLength before, some (word (first :: rest))⟩ := by
  obtain ⟨hQuote, hNumber, hWord⟩ := hStray
  have hNotQuote : ¬ (first = '\'' ∨ first = '"') := by simpa [isQuote] using hQuote
  have hNotDigit : ¬ first.isDigit = true := by
    intro hDigit
    simp [startsNumber, hDigit] at hNumber
  have hNotLetter : ¬ Text.isAlphabetic first = true := by
    intro hLetter
    simp [startsWord, hLetter] at hWord
  rw [h.parse_eq, scanError, if_neg hNotQuote, if_neg hNotDigit, if_neg hNotLetter, word]

/-- A numeral at the first failure overflows, and the error names it exactly if it starts with a
    digit and a blank or the end follows it. Otherwise the token goes on up to the next blank, and
    a numeral that starts with a point is refused for the point. Another character that starts no
    token is refused as itself, and the token starts with it exactly if it is not a blank. -/
theorem first_failure_named_iff (h : FailsAt source before first rest) (m : ℕ) :
    (∀ literal after, first :: rest = literal ++ after →
      LongestNumeral literal (first :: rest) →
        Overflows literal ∧
        parse source m = .error
          ⟨if first = '.' then .invalidCharacter '.'
            else .invalidNumber (String.ofList literal ++ word after),
            byteLength before, some (String.ofList literal ++ word after)⟩ ∧
        (parse source m = .error (overflowError (byteLength before) literal)
          ↔ first ≠ '.' ∧ ∀ c ∈ after.head?, Text.isBlank c = true)) ∧
    (Stray first rest →
      parse source m = .error
        ⟨.invalidCharacter first, byteLength before, some (word (first :: rest))⟩ ∧
      ((word (first :: rest)).toList.head? = some first ↔ Text.isBlank first = false)) ∧
    ((∀ cs, scan first cs = none) → Stray first rest) := by
  refine ⟨fun literal after hText hLongest => ?_,
    fun hStray => ⟨h.parse_stray hStray m, head_word_iff first rest⟩,
    fun hNone => stray_of_no_token hNone rest⟩
  obtain ⟨c, cs, hLiteral, hStarts⟩ := hLongest.numeral.starts after
  obtain ⟨rfl, hRest⟩ : first = c ∧ rest = cs ++ after := by
    rw [hLiteral] at hText
    exact List.cons.inj hText
  rw [← hRest] at hStarts
  have hParse := h.parse_numeral hStarts m
  rw [hText, word_numeral hLongest.numeral after] at hParse
  refine ⟨(scan_eq_none_iff hLongest).1 h.noToken, hParse, ?_⟩
  rw [hParse, ← word_eq_empty_iff]
  by_cases hPoint : first = '.'
  · refine iff_of_false (fun hNamed => ?_) (fun hNamed => hNamed.1 hPoint)
    have hCause := congrArg SyntaxError.cause (Except.error.inj hNamed)
    simp [hPoint, overflowError] at hCause
  · simp [hPoint, overflowError]

end

/-- A number that is named, with a blank after it, and a character that is named. -/
theorem first_failure_named_iff_blank :
    parse "x = 1e999 AND y" 64 = .error (overflowError 4 "1e999".toList) ∧
      ∃ token, parse "x # y" 64 = .error ⟨.invalidCharacter '#', 2, some token⟩ ∧
        token.toList.head? = some '#' := by
  have hNumber : FailsAt "x = 1e999 AND y" "x = ".toList '1' "e999 AND y".toList :=
    ⟨by decide, ⟨_, .token rfl (.space rfl (.token rfl (.space rfl .done)))⟩, rfl,
      Option.isNone_iff_eq_none.1 (by decide +kernel)⟩
  have hMark : FailsAt "x # y" "x ".toList '#' " y".toList :=
    ⟨by decide, ⟨_, .token rfl (.space rfl .done)⟩, rfl, rfl⟩
  have hLongest : LongestNumeral "1e999".toList ('1' :: "e999 AND y".toList) :=
    (longestNumeral_iff rfl).2 (by decide)
  have hNamed := (first_failure_named_iff hNumber 64).1 _ " AND y".toList (by decide) hLongest
  obtain ⟨hParse, hHead⟩ := (first_failure_named_iff hMark 64).2.1 ⟨rfl, rfl, by decide +kernel⟩
  have hAfter : ∀ c ∈ " AND y".toList.head?, Text.isBlank c = true := by
    intro c hc
    obtain rfl : ' ' = c := Option.some.inj hc
    rfl
  exact ⟨hNamed.2.2.2 ⟨by decide, hAfter⟩, _, hParse, hHead.2 (by decide)⟩

/-- A parenthesis right after an overflowing number is put into the number, a number that starts
    with a point is refused for the point, and a blank that separates no tokens is shown as nothing.
    So the error does not name every number that overflows, nor show every stray character. -/
theorem first_failure_not_named :
    parse "(x > 1e999)" 64 = .error ⟨.invalidNumber "1e999)", 5, some "1e999)"⟩ ∧
    parse "x > .5e999" 64 = .error ⟨.invalidCharacter '.', 4, some ".5e999"⟩ ∧
    parse "x =\u00a01" 64 = .error ⟨.invalidCharacter '\u00a0', 3, some ""⟩ ∧
    (¬ ∀ (source : String) (before literal after : List Char) (first : Char) (rest : List Char)
      (m : ℕ), FailsAt source before first rest → first :: rest = literal ++ after →
      LongestNumeral literal (first :: rest) →
      parse source m = .error (overflowError (byteLength before) literal)) ∧
    ¬ ∀ (source : String) (before : List Char) (first : Char) (rest : List Char) (m : ℕ),
      FailsAt source before first rest → (∀ cs, scan first cs = none) →
      ∃ token, parse source m = .error ⟨.invalidCharacter first, byteLength before, some token⟩ ∧
        token.toList.head? = some first := by
  have hEnclosed : FailsAt "(x > 1e999)" "(x > ".toList '1' "e999)".toList :=
    ⟨by decide, ⟨_, .token rfl (.token rfl (.space rfl (.token rfl (.space rfl .done))))⟩, rfl,
      Option.isNone_iff_eq_none.1 (by decide +kernel)⟩
  have hPoint : FailsAt "x > .5e999" "x > ".toList '.' "5e999".toList :=
    ⟨by decide, ⟨_, .token rfl (.space rfl (.token rfl (.space rfl .done)))⟩, rfl,
      Option.isNone_iff_eq_none.1 (by decide +kernel)⟩
  have hNone : ∀ cs, scan '\u00a0' cs = none := by
    intro cs
    rw [scan_of_stray ⟨rfl, rfl, by decide +kernel⟩, scanMark_none (by decide)]
  have hBlank : FailsAt "x =\u00a01" "x =".toList '\u00a0' "1".toList :=
    ⟨by decide, ⟨_, .token rfl (.space rfl (.token rfl .done))⟩, rfl, hNone _⟩
  have hParse := hEnclosed.parse_eq
  have hParseBlank := hBlank.parse_stray (stray_of_no_token hNone _)
  refine ⟨hParse 64, hPoint.parse_numeral rfl 64, hParseBlank 64, fun hAll => ?_, fun hAll => ?_⟩
  · have hLongest : LongestNumeral "1e999".toList ('1' :: "e999)".toList) :=
      (longestNumeral_iff rfl).2 (by decide)
    have hNamed := hAll _ _ _ ")".toList _ _ 64 hEnclosed (by decide) hLongest
    rw [hParse] at hNamed
    have hToken := congrArg SyntaxError.token (Except.error.inj hNamed)
    exact absurd hToken (by decide)
  · obtain ⟨token, hNamed, hHead⟩ := hAll _ _ _ _ 64 hBlank hNone
    rw [hParseBlank] at hNamed
    have hToken := congrArg SyntaxError.token (Except.error.inj hNamed)
    obtain rfl : "" = token := Option.some.inj hToken
    exact nomatch hHead

end GeoFilter.Cql
