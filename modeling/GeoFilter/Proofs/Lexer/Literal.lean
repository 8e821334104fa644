import GeoFilter.Proofs.Geometry.Consumed
import GeoFilter.Proofs.Geometry.ReadBack
import GeoFilter.Proofs.Lexer.LetterCase

set_option autoImplicit false

/-! # The text of a geometry literal

The lexer cuts a geometry literal where its parentheses close, and looks at nothing else in it.
Where the literal is then read as a geometry, it is read whole, so it holds only characters that
geometry text is made of. -/

namespace GeoFilter.Cql

open Text

/-! ## Where a literal ends -/

/-- The closing parenthesis that is found is the first one that closes the open ones. -/
theorem closesLast_of_closingLength {depth n : ℕ} {cs : List Char}
    (h : closingLength depth cs = some n) : Wkt.ClosesLast depth (cs.take n) := by
  induction cs generalizing depth n with
  | nil => exact absurd h (by simp [closingLength])
  | cons c cs ih =>
    rw [closingLength_cons] at h
    split at h
    · next hOpening =>
      obtain ⟨n, hRest, rfl⟩ := Option.map_eq_some_iff.1 h
      subst hOpening
      exact .opening (ih hRest)
    · next hOpening =>
      split at h
      · next hClosing =>
        subst hClosing
        cases depth with
        | zero =>
          obtain rfl := Option.some.inj h
          exact .last
        | succ depth =>
          obtain ⟨n, hRest, rfl⟩ := Option.map_eq_some_iff.1 h
          exact .closing (ih hRest)
      · next hClosing =>
        obtain ⟨n, hRest, rfl⟩ := Option.map_eq_some_iff.1 h
        exact .other hOpening hClosing (ih hRest)

/-- A literal is the text before its body, and then a body in parentheses or the word EMPTY. -/
theorem literal_cases {cs : List Char} {m : ℕ} (h : literalTail cs = .length m) :
    (∃ body, cs.take m = cs.take (bodyStart cs) ++ '(' :: body ∧
        Wkt.ClosesLast 0 body) ∨
      ∃ letters, cs.take m = cs.take (bodyStart cs) ++ letters ∧
        letters.map Char.toUpper = ['E', 'M', 'P', 'T', 'Y'] := by
  rw [literalTail_eq] at h
  by_cases hOpening : (cs.drop (bodyStart cs)).head? = some '('
  · obtain ⟨body, hBody⟩ := List.head?_eq_some_iff.1 hOpening
    rw [hBody, bodyTail_opening] at h
    split at h
    · next n hClosing =>
      obtain rfl := LiteralTail.length.inj h
      refine .inl ⟨body.take n, ?_, closesLast_of_closingLength hClosing⟩
      rw [Nat.add_assoc, List.take_add, hBody, Nat.add_comm 1 n, List.take_succ_cons]
    · exact absurd h (by simp)
  · rw [bodyTail_other _ hOpening] at h
    split at h
    · next hEmpty =>
      obtain rfl := LiteralTail.length.inj h
      exact .inr ⟨_, List.take_add, hEmpty⟩
    · exact absurd h (by simp)

/-! ## What stands before the body -/

/-- The words for a dimension. -/
def dimensionWords : List String := ["Z", "M", "ZM"]

theorem dimensionWord_cases {word : String} (h : word ∈ dimensionWords) :
    word = "Z" ∨ word = "M" ∨ word = "ZM" := by
  simpa [dimensionWords] using h

theorem dimensionWord_ne_empty {word : String} (h : word ∈ dimensionWords) :
    ¬ sameLetters word "EMPTY" := by
  rcases dimensionWord_cases h with rfl | rfl | rfl <;> decide

theorem dimensionWord_continues {word : String} (h : word ∈ dimensionWords) :
    ∃ first rest, word.toList = first :: rest ∧ continuesWord first = true := by
  rcases dimensionWord_cases h with rfl | rfl | rfl <;> exact ⟨_, _, rfl, by decide⟩

theorem tokens_dimensionWord {word : String} (h : word ∈ dimensionWords) {more : List Char}
    (hMore : Wkt.EndsRun more) :
    Wkt.tokens (word.toList ++ more) = .word word :: Wkt.tokens more := by
  have hWord : word.toList ≠ [] ∧ word.toList.all Wkt.isRunMark = true ∧
      Wkt.Token.ofRun word.toList = .word word := by
    rcases dimensionWord_cases h with rfl | rfl | rfl <;> exact ⟨by decide, by decide, rfl⟩
  rw [Wkt.tokens_run hWord.1 (List.all_eq_true.1 hWord.2.1) hMore, hWord.2.2]

/-- The dimension word of a text in upper case. -/
theorem markerLength_cases {cs : List Char} (h : cs.map Char.toUpper = cs) :
    markerLength cs = 0 ∨ ∃ word ∈ dimensionWords, cs.take (markerLength cs) = word.toList := by
  have hTake : (cs.take 2).map Char.toUpper = cs.take 2 := by rw [List.map_take, h]
  unfold markerLength
  rw [hTake]
  rcases cs with _ | ⟨a, _ | ⟨b, cs⟩⟩
  · exact .inl rfl
  all_goals
    simp only [dimensionWords, List.take_succ_cons, List.take_nil, List.take_zero]
    split <;> simp_all

/-- Before its body a literal in upper case has spaces, and perhaps a dimension word and more
    spaces. -/
theorem head_cases {cs : List Char} (h : cs.map Char.toUpper = cs) :
    cs.take (bodyStart cs) = cs.takeWhile isSpace ∨
      ∃ word ∈ dimensionWords, ∃ more, cs.dropWhile isSpace = word.toList ++ more ∧
        cs.take (bodyStart cs)
          = cs.takeWhile isSpace ++ (word.toList ++ more.takeWhile isSpace) := by
  have hUpper : (cs.dropWhile isSpace).map Char.toUpper = cs.dropWhile isSpace := by
    rw [← dropWhile_upper ignoresCase_isSpace, h]
  rw [bodyStart, List.take_add, take_runLength, drop_runLength, dimensionLength_eq]
  rcases markerLength_cases hUpper with hNone | ⟨word, hWord, hTake⟩
  · rw [hNone, if_pos rfl, List.take_zero, List.append_nil]
    exact .inl rfl
  · have hSome : markerLength (cs.dropWhile isSpace) ≠ 0 := by
      intro hNone
      obtain ⟨first, rest, hFirst, -⟩ := dimensionWord_continues hWord
      rw [hNone, List.take_zero, hFirst] at hTake
      exact List.cons_ne_nil first rest hTake.symm
    refine .inr ⟨word, hWord, (cs.dropWhile isSpace).drop (markerLength (cs.dropWhile isSpace)),
      ?_, ?_⟩
    · rw [← hTake, List.take_append_drop]
    · rw [if_neg hSome, List.take_add, hTake, take_runLength]

theorem isSpace_of_takeWhile (cs : List Char) : ∀ c ∈ cs.takeWhile isSpace, isSpace c = true :=
  fun _ hc => List.mem_takeWhile_imp hc

theorem tokens_spaces (cs more : List Char) :
    Wkt.tokens (cs.takeWhile isSpace ++ more) = Wkt.tokens more := by
  have hSpaces := isSpace_of_takeWhile cs
  generalize cs.takeWhile isSpace = spaces at *
  induction spaces with
  | nil => rfl
  | cons c spaces ih =>
    obtain ⟨hc, hOthers⟩ := List.forall_mem_cons.1 hSpaces
    simp only [isSpace, Bool.or_eq_true, beq_iff_eq] at hc
    rw [← ih hOthers]
    rcases hc with ((rfl | rfl) | rfl) | rfl <;> rfl

theorem endsRun_spaces (cs : List Char) {more : List Char}
    (h : cs.takeWhile isSpace = [] → Wkt.EndsRun more) :
    Wkt.EndsRun (cs.takeWhile isSpace ++ more) := by
  have hSpaces := isSpace_of_takeWhile cs
  cases hText : cs.takeWhile isSpace with
  | nil => exact h hText
  | cons c spaces =>
    have hSpace : Wkt.isSpace c = true := hSpaces c (hText ▸ List.mem_cons_self)
    exact Wkt.endsRun_cons (by simp [Wkt.isCut, hSpace]) _

/-- A dimension word is not glued to the word before it, which ends where no word can go on. -/
theorem spaces_before_dimensionWord {cs more : List Char} {word : String}
    (hWord : word ∈ dimensionWords) (hStops : ∀ c ∈ cs.head?, continuesWord c = false)
    (h : cs.dropWhile isSpace = word.toList ++ more) : cs.takeWhile isSpace ≠ [] := by
  intro hNone
  obtain ⟨first, rest, hFirst, hContinues⟩ := dimensionWord_continues hWord
  have hText := List.takeWhile_append_dropWhile (p := isSpace) (l := cs)
  rw [hNone, h, hFirst] at hText
  have hStop := hStops first (by rw [← hText]; rfl)
  exact absurd (hContinues.symm.trans hStop) (by decide)

/-- The tokens before the body are words, and none of them is EMPTY. -/
theorem tokens_head {cs : List Char} (hUpper : cs.map Char.toUpper = cs)
    (hStops : ∀ c ∈ cs.head?, continuesWord c = false) (kind : Wkt.Kind) (body : List Char) :
    ∃ heads, Wkt.tokens (kind.word.toList ++ (cs.take (bodyStart cs) ++ '(' :: body))
        = heads ++ .opening :: Wkt.tokens body ∧
      ∀ t ∈ heads, ∃ text, t = .word text ∧ ¬ sameLetters text "EMPTY" := by
  have hKind : ¬ sameLetters kind.word "EMPTY" := by cases kind <;> decide
  have hBody : ∀ cs : List Char, Wkt.EndsRun (cs.takeWhile isSpace ++ '(' :: body) :=
    fun cs => endsRun_spaces cs fun _ => Wkt.endsRun_cons rfl body
  rcases head_cases hUpper with hHead | ⟨word, hWord, more, hMore, hHead⟩
  · refine ⟨[.word kind.word], ?_, by simp [hKind]⟩
    rw [hHead, Wkt.tokens_word kind (hBody cs), tokens_spaces, Wkt.tokens_opening]
    rfl
  · refine ⟨[.word kind.word, .word word], ?_, by simp [hKind, dimensionWord_ne_empty hWord]⟩
    have hApart : ∀ more, Wkt.EndsRun (cs.takeWhile isSpace ++ more) := fun _ =>
      endsRun_spaces cs fun hNone => absurd hNone (spaces_before_dimensionWord hWord hStops hMore)
    rw [hHead, List.append_assoc, List.append_assoc, Wkt.tokens_word kind (hApart _),
      tokens_spaces, tokens_dimensionWord hWord (hBody more), tokens_spaces, Wkt.tokens_opening]
    rfl

/-! ## The characters of a literal -/

theorem marks_of_head {cs : List Char} (h : cs.map Char.toUpper = cs) :
    ∀ c ∈ cs.take (bodyStart cs), Wkt.isTextMark c = true := by
  have hSpaces : ∀ cs : List Char, ∀ c ∈ cs.takeWhile isSpace, Wkt.isTextMark c = true := by
    intro cs c hc
    have hSpace : Wkt.isSpace c = true := isSpace_of_takeWhile cs c hc
    simp [Wkt.isTextMark, Wkt.isCut, hSpace]
  rcases head_cases h with hHead | ⟨word, hWord, more, -, hHead⟩
  · rw [hHead]
    exact hSpaces cs
  · have hLetters : word.toList.all Wkt.isTextMark = true := by
      rcases dimensionWord_cases hWord with rfl | rfl | rfl <;> decide
    rw [hHead]
    exact List.forall_mem_append.2
      ⟨hSpaces cs, List.forall_mem_append.2 ⟨List.all_eq_true.1 hLetters, hSpaces more⟩⟩

/-- A literal in upper case that is read as a geometry holds characters of geometry text only. -/
theorem marks_of_literal {kind : Wkt.Kind} {cs : List Char} {m : ℕ} {g : Geometry}
    (hUpper : cs.map Char.toUpper = cs) (hStops : ∀ c ∈ cs.head?, continuesWord c = false)
    (hTail : literalTail cs = .length m)
    (hRead : Geometry.ofWkt (String.ofList (kind.word.toList ++ cs.take m)) = .ok g) :
    ∀ c ∈ kind.word.toList ++ cs.take m, Wkt.isTextMark c = true := by
  have hKind : kind.word.toList.all Wkt.isTextMark = true := by cases kind <;> decide
  refine List.forall_mem_append.2 ⟨List.all_eq_true.1 hKind, ?_⟩
  rcases literal_cases hTail with ⟨body, hText, hCloses⟩ | ⟨letters, hText, hEmpty⟩
  · obtain ⟨heads, hTokens, hHeads⟩ := tokens_head hUpper hStops kind body
    obtain ⟨start, rfl⟩ := hCloses.ends
    have hTrimmed := Wkt.trimmed_kind kind (by decide : isBlank ')' = false)
      (cs.take (bodyStart cs) ++ '(' :: start)
    rw [List.append_assoc, List.cons_append, ← hText] at hTrimmed
    rw [Geometry.ofWkt_eq_ok, String.toList_ofList, hTrimmed, hText, hTokens] at hRead
    obtain ⟨-, ⟨rest', hGeometry⟩, -⟩ := hRead
    rw [hText]
    refine List.forall_mem_append.2 ⟨marks_of_head hUpper, List.forall_mem_cons.2 ⟨by decide, ?_⟩⟩
    exact Wkt.marks_of_read hHeads hCloses hGeometry
  · rw [hText]
    refine List.forall_mem_append.2 ⟨marks_of_head hUpper, ?_⟩
    intro c hc
    have hLetter : ['E', 'M', 'P', 'T', 'Y'].all Wkt.isTextMark = true := by decide
    have hTest : IgnoresCase Wkt.isTextMark := by decide
    rw [← hTest c]
    exact List.all_eq_true.1 hLetter _ (hEmpty ▸ List.mem_map_of_mem hc)

/-- A word for a geometry type is one in upper case. -/
theorem exists_kind {word : String} (h : isGeometryWord word = true) :
    ∃ kind : Wkt.Kind, word.toList.map Char.toUpper = kind.word.toList := by
  obtain ⟨w, hw, hSame⟩ := List.any_eq_true.1 h
  obtain ⟨kind, rfl⟩ := Wkt.exists_kind_of_mem hw
  have hUpper : kind.word.toList.map Char.toUpper = kind.word.toList := by cases kind <;> decide
  exact ⟨kind, (beq_iff_eq.1 hSame).symm.trans hUpper⟩

/-- A literal that is read as a geometry holds characters of geometry text only. -/
theorem marks_of_scanWord {first : Char} {rest : List Char} {s : String} {n : ℕ} {g : Geometry}
    (h : scanWord first rest = some (.geometry s, n))
    (hRead : Geometry.ofWkt (Text.upper s) = .ok g) :
    ∀ c ∈ first :: rest.take n, Wkt.isTextMark c = true := by
  rcases scanWord_cases h with ⟨-, ⟨_, hKind⟩ | ⟨_, hKind⟩⟩ | ⟨m, hWord, hTail, rfl, hSource⟩
  · exact nomatch hKind
  · exact nomatch hKind
  generalize hRun : runLength continuesWord rest = k at *
  obtain rfl := TokenKind.geometry.inj hSource
  obtain ⟨kind, hKind⟩ := exists_kind hWord
  rw [String.toList_ofList] at hKind
  have hStops : ∀ c ∈ ((rest.drop k).map Char.toUpper).head?, continuesWord c = false := by
    intro c hc
    rw [← hRun, drop_runLength, ← dropWhile_upper ignoresCase_continuesWord] at hc
    have hStop := List.head?_dropWhile_not continuesWord (rest.map Char.toUpper)
    rw [Option.mem_def.1 hc] at hStop
    simpa using hStop
  have hText : (first :: rest.take (k + m)).map Char.toUpper
      = kind.word.toList ++ ((rest.drop k).map Char.toUpper).take m := by
    rw [← hKind, ← List.map_take, ← List.map_append, List.cons_append, ← List.take_add]
  rw [upper_ofList, hText] at hRead
  rw [← literalTail_upper] at hTail
  have hMarks := marks_of_literal (upper_upper _) hStops hTail hRead
  intro c hc
  have hTest : IgnoresCase Wkt.isTextMark := by decide
  rw [← hTest c]
  exact hMarks _ (hText ▸ List.mem_map_of_mem hc)

end GeoFilter.Cql
