import GeoFilter.Like.Pattern
import GeoFilter.Proofs.Regex
import Mathlib.Data.List.Forall2

set_option autoImplicit false

/-! # What patterns match

A pattern is read from left to right as a list of items, and it matches a text exactly if the text
is made of consecutive pieces, one for each item. The expression that a pattern is translated to is
always read, as one part for each item between the two ends of the text.

A relaxed pattern has the items of the strict one between two items for any run, so that it matches
a text exactly if the strict pattern matches some piece of it. -/

namespace GeoFilter

/-- One item of a pattern. -/
inductive PatternItem where
  | anyRun
  | anyChar
  | literal (c : Char)
  deriving DecidableEq, Repr

namespace PatternItem

/-- The items that the characters of a pattern spell. -/
def ofChars : List Char → List PatternItem
  | [] => []
  | '%' :: cs => anyRun :: ofChars cs
  | '_' :: cs => anyChar :: ofChars cs
  | ['\\'] => [literal '\\']
  | '\\' :: c :: cs => literal c :: ofChars cs
  | c :: cs => literal c :: ofChars cs

theorem ofChars_literal {c : Char} (hRun : c ≠ '%') (hChar : c ≠ '_') (hEscape : c ≠ '\\')
    (cs : List Char) : ofChars (c :: cs) = literal c :: ofChars cs := by
  simp [ofChars, hEscape]

/-- A character is no backslash if it neither ends the text as one nor escapes the next. -/
theorem ne_backslash {c : Char} {cs : List Char} (hLast : c = '\\' → cs = [] → False)
    (hEscape : ∀ d ds, c = '\\' → cs = d :: ds → False) : c ≠ '\\' := by
  rintro rfl
  cases cs with
  | nil => exact hLast rfl rfl
  | cons d ds => exact hEscape d ds rfl rfl

/-- What an item matches: any characters, any one character, or one given character. -/
inductive Covers : PatternItem → List Char → Prop where
  | anyRun (piece : List Char) : Covers anyRun piece
  | anyChar (c : Char) : Covers anyChar [c]
  | literal (c : Char) : Covers (literal c) [c]

/-- The text is made of consecutive pieces, one for each item. -/
def Cover (items : List PatternItem) (text : List Char) : Prop :=
  ∃ pieces : List (List Char), text = pieces.flatten ∧ List.Forall₂ Covers items pieces

variable {item : PatternItem} {items : List PatternItem} {text : List Char}

theorem cover_nil : Cover [] text ↔ text = [] := by
  simp [Cover]

theorem cover_cons : Cover (item :: items) text ↔
    ∃ piece rest, text = piece ++ rest ∧ item.Covers piece ∧ Cover items rest := by
  constructor
  · rintro ⟨_, rfl, h⟩
    obtain ⟨piece, pieces, hItem, hItems, rfl⟩ := List.forall₂_cons_left_iff.1 h
    exact ⟨piece, pieces.flatten, rfl, hItem, pieces, rfl, hItems⟩
  · rintro ⟨piece, _, rfl, hItem, pieces, rfl, hItems⟩
    exact ⟨piece :: pieces, rfl, .cons hItem hItems⟩

theorem cover_append (items' : List PatternItem) : Cover (items ++ items') text ↔
    ∃ first last, text = first ++ last ∧ Cover items first ∧ Cover items' last := by
  induction items generalizing text with
  | nil => simp [cover_nil]
  | cons item items ih =>
    simp only [List.cons_append, cover_cons, ih]
    constructor
    · rintro ⟨piece, _, rfl, hItem, first, last, rfl, hFirst, hLast⟩
      exact ⟨piece ++ first, last, by simp, ⟨piece, first, rfl, hItem, hFirst⟩, hLast⟩
    · rintro ⟨_, last, rfl, ⟨piece, first, rfl, hItem, hFirst⟩, hLast⟩
      exact ⟨piece, first ++ last, by simp, hItem, first, last, rfl, hFirst, hLast⟩

theorem cover_anyRun : Cover [anyRun] text :=
  ⟨[text], by simp, .cons (.anyRun text) .nil⟩

/-! ## The parts for the items -/

/-- The part of an expression that matches what an item matches. -/
def part : PatternItem → Regex.Part
  | anyRun => .many .any
  | anyChar => .one .any
  | literal c => .one (.exactly c)

theorem takes_part {before piece after : List Char} :
    item.part.Takes before piece after ↔ item.Covers piece := by
  constructor
  · intro h
    cases item with
    | anyRun => exact .anyRun piece
    | anyChar =>
      cases h with
      | one => exact .anyChar _
    | literal c =>
      cases h with
      | one _ _ hHolds =>
        obtain rfl := beq_iff_eq.1 hHolds
        exact .literal _
  · intro h
    cases h with
    | anyRun => exact .many before after fun _ _ => rfl
    | anyChar c => exact .one before after rfl
    | literal c => exact .one before after (beq_self_eq_true c)

/-- Up to the end of the text, the parts take what the items match. -/
theorem takes_parts {before piece after : List Char} :
    Regex.Takes (items.map part ++ [.textEnd]) before piece after ↔
      after = [] ∧ Cover items piece := by
  induction items generalizing before piece with
  | nil =>
    rw [cover_nil]
    constructor
    · intro h
      cases h with
      | cons hEnd hNil =>
        cases hNil
        rw [List.nil_append] at hEnd
        cases hEnd
        exact ⟨rfl, rfl⟩
    · rintro ⟨rfl, rfl⟩
      have hEnd : Regex.Takes [.textEnd] before ([] ++ []) [] :=
        .cons (.textEnd before) (.nil _ _)
      exact hEnd
  | cons item items ih =>
    rw [cover_cons]
    constructor
    · intro h
      cases h with
      | cons hPart hParts =>
        obtain ⟨rfl, hItems⟩ := ih.1 hParts
        exact ⟨rfl, _, _, rfl, takes_part.1 hPart, hItems⟩
    · rintro ⟨rfl, piece, rest, rfl, hItem, hItems⟩
      exact .cons (takes_part.2 hItem) (ih.2 ⟨rfl, hItems⟩)

end PatternItem

namespace LikePattern

open PatternItem Regex

/-! ## Reading the expression of a pattern -/

theorem notRepeated_translate (literal cs : List Char) {more : List Char}
    (hMore : NotRepeated more) : NotRepeated (translate literal cs ++ more) := by
  fun_induction translate literal cs with
  | case1 literal => exact notRepeated_escape _ hMore
  | case2 literal cs _ =>
    rw [List.append_assoc]
    exact notRepeated_escape _ (notRepeated_cons (by decide) _)
  | case3 literal cs _ =>
    rw [List.append_assoc]
    exact notRepeated_escape _ (notRepeated_cons (by decide) _)
  | case4 literal => exact notRepeated_escape _ hMore
  | case5 literal c cs ih => exact ih
  | case6 literal c cs _ _ _ _ ih => exact ih

/-- The translated characters are read as one part for each item that they spell. -/
theorem readParts_translate (literal cs : List Char) {groups : ℕ} {parts : List Part}
    {more : List Char} (hMore : NotRepeated more) :
    readParts .any groups parts (translate literal cs ++ more)
      = readParts .any groups
          (((literal.reverse.map PatternItem.literal ++ ofChars cs).map part).reverse ++ parts)
          more := by
  fun_induction translate literal cs generalizing parts with
  | case1 literal => simp [readParts_escape _ hMore, ofChars, Function.comp_def, part]
  | case2 literal cs ih =>
    rw [List.append_assoc, List.cons_append, List.cons_append,
      readParts_escape _ (notRepeated_cons (by decide) _), readParts_points, ih]
    simp [ofChars, Function.comp_def, part]
  | case3 literal cs ih =>
    rw [List.append_assoc, List.cons_append,
      readParts_escape _ (notRepeated_cons (by decide) _),
      readParts_point (notRepeated_translate [] cs hMore), ih]
    simp [ofChars, Function.comp_def, part]
  | case4 literal => simp [readParts_escape _ hMore, ofChars, Function.comp_def, part]
  | case5 literal c cs ih =>
    rw [ih]
    simp [ofChars]
  | case6 literal c cs hRun hChar hLast hEscape ih =>
    rw [ih, ofChars_literal hRun hChar (ne_backslash hLast hEscape)]
    simp

/-- The items that the text of a pattern spells. -/
def items (p : LikePattern) : List PatternItem := ofChars p.source.toList

/-- The expression of a pattern is always read: its parts stand between the ends of the text. -/
theorem parts?_eq (p : LikePattern) :
    p.parts? = some (.textStart :: (p.items.map part ++ [.textEnd])) := by
  have hClosing : NotRepeated [')', '$'] := notRepeated_cons (by decide) _
  calc p.parts?
    _ = readParts .any 1 [.textStart] (translate [] p.source.toList ++ [')', '$']) := rfl
    _ = readParts .any 1 ((p.items.map part).reverse ++ [.textStart]) [')', '$'] :=
      readParts_translate [] _ hClosing
    _ = some (.textStart :: (p.items.map part ++ [.textEnd])) := by
      simp [readParts]

/-- Nothing but its size keeps a pattern from compiling. -/
theorem compile_eq (source : String) (relaxed : Bool) :
    compile source relaxed =
      let p : LikePattern := ⟨if relaxed then relax source else source⟩
      if sizeLimit < Regex.compiledSize (.textStart :: (p.items.map part ++ [.textEnd])) then
        .error ⟨p.source, .tooLarge⟩
      else .ok p := by
  rw [compile, parts?_eq]

/-! ## Matching -/

theorem isMatch_iff_cover (p : LikePattern) (text : String) :
    p.isMatch text = true ↔ Cover p.items text.toList := by
  rw [isMatch, p.parts?_eq]
  dsimp only
  rw [Regex.isMatch_iff]
  constructor
  · rintro ⟨before, piece, after, hText, h⟩
    cases h with
    | cons hStart hParts =>
      cases hStart
      obtain ⟨rfl, hItems⟩ := takes_parts.1 hParts
      rw [hText]
      simpa using hItems
  · intro h
    have hTakes : Takes (.textStart :: (p.items.map part ++ [.textEnd])) []
        ([] ++ text.toList) [] :=
      .cons (.textStart _) (takes_parts.2 ⟨rfl, h⟩)
    exact ⟨[], text.toList, [], by simp, hTakes⟩

/-- A pattern that compiles matches a text exactly if the text is made of consecutive pieces, one
    for each item that the pattern spells, and each item covers its piece. -/
theorem isMatch_iff_pieces {source : String} {p : LikePattern} (h : compile source false = .ok p)
    (text : String) :
    p.isMatch text = true ↔ ∃ pieces : List (List Char), text.toList = pieces.flatten ∧
      List.Forall₂ Covers (ofChars source.toList) pieces := by
  obtain rfl := eq_of_compile h
  exact isMatch_iff_cover _ text

/-- Wildcards cover newlines, and marks of expressions and what is escaped stand for themselves. -/
theorem isMatch_iff_pieces_marks :
    compile "%.(\\%_\\" false = .ok ⟨"%.(\\%_\\"⟩ ∧
      (LikePattern.mk "%.(\\%_\\").isMatch "a\n.(%\n\\" = true := by
  have hCompile : compile "%.(\\%_\\" false = .ok ⟨"%.(\\%_\\"⟩ := rfl
  refine ⟨hCompile, (isMatch_iff_pieces hCompile _).2 ?_⟩
  exact ⟨[['a', '\n'], ['.'], ['('], ['%'], ['\n'], ['\\']], rfl,
    .cons (.anyRun _) (.cons (.literal _) (.cons (.literal _) (.cons (.literal _)
      (.cons (.anyChar _) (.cons (.literal _) .nil)))))⟩

/-! ## Relaxed patterns -/

theorem endsInEscape_cons {c : Char} (h : c ≠ '\\') (cs : List Char) :
    endsInEscape (c :: cs) = endsInEscape cs := by
  have hc : (c == '\\') = false := beq_false_of_ne h
  rw [endsInEscape, List.foldl_cons, hc]
  rfl

/-- The tail that relaxing appends is read as a run, whatever comes before it. -/
theorem ofChars_append (cs : List Char) :
    ofChars (cs ++ if endsInEscape cs then ['\\', '%'] else ['%'])
      = ofChars cs ++ [anyRun] := by
  fun_induction ofChars cs with
  | case1 => rfl
  | case2 cs ih =>
    rw [endsInEscape_cons (by decide), List.cons_append, ofChars, ih, List.cons_append]
  | case3 cs ih =>
    rw [endsInEscape_cons (by decide), List.cons_append, ofChars, ih, List.cons_append]
  | case4 => rfl
  | case5 c cs ih =>
    -- The escaped character does not escape what comes after it.
    have hEnds : endsInEscape ('\\' :: c :: cs) = endsInEscape cs := rfl
    rw [hEnds, List.cons_append, List.cons_append, ofChars, ih, List.cons_append]
  | case6 c cs hRun hChar hLast hEscape ih =>
    have hc := ne_backslash hLast hEscape
    rw [endsInEscape_cons hc, List.cons_append, ofChars_literal hRun hChar hc, ih, List.cons_append]

theorem items_relax (source : String) :
    (LikePattern.mk (relax source)).items
      = anyRun :: ((LikePattern.mk source).items ++ [anyRun]) := by
  simp only [items, relax, String.toList_ofList]
  exact congrArg _ (ofChars_append source.toList)

/-- Between two items for any run, items match what is made of a piece that they match and of any
    characters before and after it. -/
theorem cover_between {items : List PatternItem} {text : List Char} :
    Cover (anyRun :: (items ++ [anyRun])) text ↔
      ∃ before piece after, text = before ++ piece ++ after ∧ Cover items piece := by
  rw [cover_cons]
  constructor
  · rintro ⟨before, _, rfl, -, h⟩
    obtain ⟨piece, after, rfl, hPiece, -⟩ := (cover_append [anyRun]).1 h
    exact ⟨before, piece, after, (List.append_assoc ..).symm, hPiece⟩
  · rintro ⟨before, piece, after, rfl, hPiece⟩
    exact ⟨before, piece ++ after, List.append_assoc .., .anyRun before,
      (cover_append [anyRun]).2 ⟨piece, after, rfl, hPiece, cover_anyRun⟩⟩

/-- Relaxed, a pattern matches a text exactly if it matches some piece of the text when it is
    strict. What is kept of the relaxed pattern compiles to the same pattern when it is strict. -/
theorem relaxed_isMatch_iff {source : String} {strict relaxed : LikePattern}
    (hStrict : compile source false = .ok strict) (hRelaxed : compile source true = .ok relaxed) :
    (∀ text : String, relaxed.isMatch text = true ↔
        ∃ before piece after : String, text = before ++ piece ++ after ∧
          strict.isMatch piece = true) ∧
      compile relaxed.source false = .ok relaxed := by
  refine ⟨?_, compile_source hRelaxed⟩
  obtain rfl := eq_of_compile hStrict
  obtain rfl := eq_of_compile hRelaxed
  intro text
  simp only [isMatch_iff_cover, if_true, Bool.false_eq_true, if_false, items_relax, cover_between]
  constructor
  · rintro ⟨before, piece, after, hText, h⟩
    refine ⟨.ofList before, .ofList piece, .ofList after, ?_, by rwa [String.toList_ofList]⟩
    rw [← String.ofList_append, ← String.ofList_append, ← hText, String.ofList_toList]
  · rintro ⟨before, piece, after, rfl, h⟩
    exact ⟨before.toList, piece.toList, after.toList, by simp, h⟩

/-- The backslash at the end of a relaxed pattern still stands for itself. -/
theorem relaxed_isMatch_iff_backslash :
    (compile "a\\" false = .ok ⟨"a\\"⟩ ∧ compile "a\\" true = .ok ⟨"%a\\\\%"⟩) ∧
      (LikePattern.mk "%a\\\\%").isMatch "xa\\y" = true ∧
      compile "%a\\\\%" false = .ok ⟨"%a\\\\%"⟩ := by
  have hStrict : compile "a\\" false = .ok ⟨"a\\"⟩ := rfl
  have hRelax : relax "a\\" = "%a\\\\%" := by decide +kernel
  have hRelaxed : compile "a\\" true = .ok ⟨"%a\\\\%"⟩ := by
    rw [compile_eq, if_pos rfl, hRelax]
    exact if_neg (by decide +kernel)
  have hText : "xa\\y" = "x" ++ "a\\" ++ "y" := by decide +kernel
  have hPiece : (LikePattern.mk "a\\").isMatch "a\\" = true := by decide +kernel
  have hIff := relaxed_isMatch_iff hStrict hRelaxed
  exact ⟨⟨hStrict, hRelaxed⟩, (hIff.1 _).2 ⟨"x", "a\\", "y", hText, hPiece⟩, hIff.2⟩

end LikePattern

end GeoFilter
