import GeoFilter.Geometry.Wkt.Reader
import GeoFilter.Geometry.Wkt.Writer
import GeoFilter.Proofs.Printer.Number

set_option autoImplicit false

/-! # The tokens of written geometry text

Geometry text is cut at blanks, parentheses and commas, and what stands between two cuts is one
token. Written text is put together from words, numbers and cuts, so its tokens can be told piece
by piece, and the token of a written number is that number. -/

namespace GeoFilter

/-- Text that neither starts nor ends with a blank is not trimmed. -/
theorem Text.trimmed_of_ends {first last : Char} {rest start : List Char}
    (hFirst : isBlank first = false) (hLast : isBlank last = false)
    (h : first :: rest = start ++ [last]) : trimmed (first :: rest) = first :: rest := by
  rw [trimmed, List.dropWhile_cons_of_neg (by simp [hFirst]), h, List.reverse_append,
    List.reverse_singleton, List.singleton_append, List.dropWhile_cons_of_neg (by simp [hLast]),
    List.reverse_cons, List.reverse_reverse]

namespace Wkt

/-- A word for a geometry type. -/
theorem exists_kind_of_mem {word : String} (h : word ∈ Cql.geometryWords) :
    ∃ kind : Kind, word = kind.word := by
  simp only [Cql.geometryWords, List.mem_cons, List.not_mem_nil, or_false] at h
  rcases h with rfl | rfl | rfl | rfl | rfl | rfl | rfl
  · exact ⟨.point, rfl⟩
  · exact ⟨.lineString, rfl⟩
  · exact ⟨.polygon, rfl⟩
  · exact ⟨.multiPoint, rfl⟩
  · exact ⟨.multiLineString, rfl⟩
  · exact ⟨.multiPolygon, rfl⟩
  · exact ⟨.collection, rfl⟩

/-- Text that starts with the word for a type is only trimmed at its end. -/
theorem trimmed_kind (kind : Kind) {last : Char} (hLast : Text.isBlank last = false)
    (start : List Char) : Text.trimmed (kind.word.toList ++ (start ++ [last]))
      = kind.word.toList ++ (start ++ [last]) := by
  obtain ⟨first, rest, hFirst, hLetter⟩ : ∃ first rest, kind.word.toList = first :: rest ∧
      Text.isBlank first = false := by
    cases kind <;> exact ⟨_, _, rfl, by decide⟩
  have hEnds : first :: (rest ++ (start ++ [last])) = (first :: (rest ++ start)) ++ [last] := by
    simp
  rw [hFirst, List.cons_append, Text.trimmed_of_ends hLetter hLast hEnds]

/-! ## Runs -/

/-- The characters that geometry text is cut at. -/
def isCut (c : Char) : Bool := isSpace c || c == '(' || c == ')' || c == ','

/-- The characters that go on with a run. -/
def isRunMark (c : Char) : Bool := c.toNat != 0 && !isCut c

/-- A run ends before this text. -/
def EndsRun (more : List Char) : Prop := ∀ c ∈ more.head?, isCut c = true

theorem endsRun_nil : EndsRun [] := fun _ hc => nomatch hc

theorem endsRun_cons {c : Char} (h : isCut c = true) (more : List Char) : EndsRun (c :: more) := by
  intro c' hc
  rwa [← Option.some.inj hc]

theorem tokens_opening (cs : List Char) : tokens ('(' :: cs) = .opening :: tokens cs := rfl

theorem tokens_closing (cs : List Char) : tokens (')' :: cs) = .closing :: tokens cs := rfl

theorem tokens_comma (cs : List Char) : tokens (',' :: cs) = .comma :: tokens cs := rfl

theorem tokens_space (cs : List Char) : tokens (' ' :: cs) = tokens cs := rfl

/-- A run is gathered to its end. -/
theorem tokensAfter_run {run more : List Char} (h : ∀ c ∈ run, isRunMark c = true)
    (hMore : EndsRun more) (before : List Char) :
    tokensAfter before (run ++ more) = gathered (run.reverse ++ before) ++ tokens more := by
  induction run generalizing before with
  | nil =>
    cases more with
    | nil => simp [tokensAfter, tokens, gathered]
    | cons c more =>
      have hCut := hMore c rfl
      simp only [isCut, isSpace, Bool.or_eq_true, beq_iff_eq, decide_eq_true_eq] at hCut
      rcases hCut with (((((rfl | rfl) | rfl) | rfl) | rfl) | rfl) | rfl <;>
        simp [tokensAfter, tokens, isSpace, gathered]
  | cons c run ih =>
    have hc := h c List.mem_cons_self
    simp only [isRunMark, isCut, Bool.and_eq_true, Bool.not_eq_true', Bool.or_eq_false_iff,
      bne_iff_ne, beq_eq_false_iff_ne] at hc
    obtain ⟨hNul, ⟨⟨hSpace, hOpening⟩, hClosing⟩, hComma⟩ := hc
    rw [List.cons_append, tokensAfter, if_neg hNul, if_neg (by simp [hSpace]), if_neg hOpening,
      if_neg hClosing, if_neg hComma, ih fun c' hMem => h c' (List.mem_cons_of_mem c hMem)]
    simp

/-- What stands between two cuts is one token. -/
theorem tokens_run {run more : List Char} (hNe : run ≠ []) (h : ∀ c ∈ run, isRunMark c = true)
    (hMore : EndsRun more) : tokens (run ++ more) = .ofRun run :: tokens more := by
  rw [tokens, tokensAfter_run h hMore]
  simp [gathered, hNe]

/-! ## Words -/

theorem tokens_word (kind : Kind) {more : List Char} (hMore : EndsRun more) :
    tokens (kind.word.toList ++ more) = .word kind.word :: tokens more := by
  have hWord : kind.word.toList ≠ [] ∧ kind.word.toList.all isRunMark = true ∧
      Token.ofRun kind.word.toList = .word kind.word := by
    cases kind <;> exact ⟨by decide, by decide, rfl⟩
  rw [tokens_run hWord.1 (List.all_eq_true.1 hWord.2.1) hMore, hWord.2.2]

theorem tokens_empty {more : List Char} (hMore : EndsRun more) :
    tokens (" EMPTY".toList ++ more) = .word "EMPTY" :: tokens more := by
  have hRun : tokens ("EMPTY".toList ++ more) = .ofRun "EMPTY".toList :: tokens more :=
    tokens_run (by decide) (List.all_eq_true.1 (by decide)) hMore
  exact hRun

/-! ## Numbers -/

theorem isRunMark_of_isDigit {c : Char} (h : c.isDigit = true) : isRunMark c = true := by
  have hDigits : ∀ k : Fin 10, isRunMark (Char.ofNat (48 + k)) = true := by decide
  obtain ⟨k, rfl⟩ := Cql.eq_of_isDigit h
  exact hDigits k

open Number in
theorem run_magnitudeText {code : ℕ} (h : code < binary64.infinityCode) :
    ∃ first rest, magnitudeText code = first :: rest ∧ first.isDigit = true ∧
      ∀ c ∈ magnitudeText code, isRunMark c = true := by
  obtain ⟨⟨whole, fraction, hSpells⟩, -⟩ := magnitudeText_reads h
  obtain ⟨first, whole, rfl⟩ := List.exists_cons_of_ne_nil hSpells.ne_nil
  have hWhole : ∀ c ∈ first :: whole, isRunMark c = true :=
    fun c hc => isRunMark_of_isDigit (hSpells.whole c hc)
  have hFirst : first.isDigit = true := hSpells.whole first List.mem_cons_self
  rw [hSpells.eq]
  unfold pointed
  split
  · exact ⟨first, whole, rfl, hFirst, hWhole⟩
  · refine ⟨first, whole ++ '.' :: fraction, rfl, hFirst, ?_⟩
    intro c hc
    rcases List.mem_append.1 hc with hc | hc
    · exact hWhole c hc
    · rcases List.mem_cons.1 hc with rfl | hc
      · decide
      · exact isRunMark_of_isDigit (hSpells.fraction c hc)

open Number in
theorem toList_positional {x : Float} (h : x.isFinite = true) :
    (positional x).toList
      = if isNegative x then '-' :: magnitudeText (code x) else magnitudeText (code x) := by
  unfold positional
  rw [shape_of_isFinite h]
  exact String.toList_ofList

theorem run_positional {x : Float} (h : x.isFinite = true) :
    ∀ c ∈ (Number.positional x).toList, isRunMark c = true := by
  obtain ⟨-, -, -, -, hRun⟩ := run_magnitudeText (Number.isFinite_iff.1 h)
  rw [toList_positional h]
  split
  · intro c hc
    rcases List.mem_cons.1 hc with rfl | hc
    · decide
    · exact hRun c hc
  · exact hRun

open Number in
/-- The token of a written number is the number, the sign of a zero included. -/
theorem ofRun_positional {x : Float} (h : x.isFinite = true) :
    Token.ofRun (positional x).toList = .number x := by
  have hCode := isFinite_iff.1 h
  have hNumber := ofCode_code hCode
  rw [toList_positional h]
  split
  · next hNegative =>
    rw [hNegative] at hNumber
    rw [Token.ofRun, if_pos (by decide), if_neg (by decide), magnitudeText_reads_minus hCode,
      hNumber]
  · next hPositive =>
    rw [Bool.eq_false_iff.2 hPositive] at hNumber
    obtain ⟨first, rest, hText, hDigit, -⟩ := run_magnitudeText hCode
    have hPlus : first ≠ '+' := by
      rintro rfl
      exact absurd hDigit (by decide)
    have hReads := (magnitudeText_reads hCode).2
    rw [hText] at hReads ⊢
    rw [Token.ofRun, if_pos (by simp [startsNumber, hDigit]), if_neg hPlus, hReads, hNumber]

theorem tokens_positional {x : Float} (h : x.isFinite = true) {more : List Char}
    (hMore : EndsRun more) :
    tokens ((Number.positional x).toList ++ more) = .number x :: tokens more := by
  have hNe : (Number.positional x).toList ≠ [] := by
    rw [toList_positional h]
    obtain ⟨first, rest, hText, -⟩ := run_magnitudeText (Number.isFinite_iff.1 h)
    rw [hText]
    split <;> exact List.cons_ne_nil _ _
  rw [tokens_run hNe (run_positional h) hMore, ofRun_positional h]

theorem tokens_coordText {c : Coord} (h : c.isFinite = true) {more : List Char}
    (hMore : EndsRun more) :
    tokens (coordText c ++ more) = .number c.x :: .number c.y :: tokens more := by
  rw [Coord.isFinite, Bool.and_eq_true] at h
  rw [coordText, List.append_assoc, List.cons_append, tokens_positional h.1 (endsRun_cons rfl _),
    tokens_space, tokens_positional h.2 hMore]

end Wkt

end GeoFilter
