import GeoFilter.Text.Lines

set_option autoImplicit false

/-! # What the lines of a text are

A text is cut at its line feeds and nowhere else. The end of a line is a line feed, with the
carriage return before it if there is one; a carriage return elsewhere is a character like any
other. A text has only one list of lines. -/

namespace GeoFilter.Text

/-- The characters are these lines, each with its end. The last line need not have an end, but then
    it is not empty. -/
inductive Consists : List Char → List (List Char) → Prop where
  | nothing : Consists [] []
  | unended {line : List Char} (hNe : line ≠ []) (h : '\n' ∉ line) : Consists line [line]
  | feed {line cs : List Char} {lines : List (List Char)} (h : '\n' ∉ line)
      (hReturn : line.getLast? ≠ some '\r') (hRest : Consists cs lines) :
      Consists (line ++ '\n' :: cs) (line :: lines)
  | returnFeed {line cs : List Char} {lines : List (List Char)} (h : '\n' ∉ line)
      (hRest : Consists cs lines) : Consists (line ++ '\r' :: '\n' :: cs) (line :: lines)

/-- The lines of a text, without their ends. -/
def HasLines (s : String) (lines : List String) : Prop :=
  Consists s.toList (lines.map String.toList)

/-! ## Carriage returns -/

theorem withoutReturn_of_ne {line : List Char} (h : line.getLast? ≠ some '\r') :
    withoutReturn line = line := if_neg h

theorem withoutReturn_append (line : List Char) : withoutReturn (line ++ ['\r']) = line := by
  simp [withoutReturn]

/-! ## Cutting -/

theorem linesAfter_unended {line : List Char} (h : '\n' ∉ line) (start : List Char) :
    linesAfter start line
      = if (start.reverse ++ line).isEmpty then [] else [start.reverse ++ line] := by
  induction line generalizing start with
  | nil => cases start <;> simp [linesAfter]
  | cons c line ih =>
    rw [List.mem_cons, not_or] at h
    rw [linesAfter, if_neg (Ne.symm h.1), ih h.2]
    simp

theorem linesAfter_feed {line : List Char} (h : '\n' ∉ line) (start cs : List Char) :
    linesAfter start (line ++ '\n' :: cs)
      = withoutReturn (start.reverse ++ line) :: linesAfter [] cs := by
  induction line generalizing start with
  | nil => simp [linesAfter]
  | cons c line ih =>
    rw [List.mem_cons, not_or] at h
    rw [List.cons_append, linesAfter, if_neg (Ne.symm h.1), ih h.2]
    simp

theorem Consists.linesAfter {cs : List Char} {lines : List (List Char)} (h : Consists cs lines) :
    linesAfter [] cs = lines := by
  induction h with
  | nothing => rfl
  | @unended line hNe h =>
    rw [linesAfter_unended h, List.reverse_nil, List.nil_append, if_neg (by simpa using hNe)]
  | @feed line cs lines h hReturn _ ih =>
    rw [linesAfter_feed h, ih, List.reverse_nil, List.nil_append, withoutReturn_of_ne hReturn]
  | @returnFeed line cs lines h _ ih =>
    have hLine : '\n' ∉ line ++ ['\r'] := by simp [h]
    rw [List.append_cons, linesAfter_feed hLine, ih, List.reverse_nil, List.nil_append,
      withoutReturn_append]

/-- Cutting finds the lines. `start` is the beginning of the first line, in reverse. -/
theorem consists_linesAfter (start cs : List Char) (h : '\n' ∉ start) :
    Consists (start.reverse ++ cs) (linesAfter start cs) := by
  induction cs generalizing start with
  | nil =>
    cases start with
    | nil => exact .nothing
    | cons c start =>
      have hLine : '\n' ∉ (c :: start).reverse := by rwa [List.mem_reverse]
      rw [List.append_nil]
      exact .unended (by simp) hLine
  | cons c cs ih =>
    rw [linesAfter]
    split
    · next hFeed =>
      subst hFeed
      have hLine : '\n' ∉ start.reverse := by rwa [List.mem_reverse]
      have hRest := ih [] List.not_mem_nil
      by_cases hReturn : start.reverse.getLast? = some '\r'
      -- The carriage return belongs to the end of the line.
      · obtain ⟨line, hEq⟩ := List.getLast?_eq_some_iff.1 hReturn
        rw [hEq] at hLine ⊢
        rw [withoutReturn_append, List.append_assoc]
        exact .returnFeed (fun hMem => hLine (List.mem_append_left _ hMem)) hRest
      · rw [withoutReturn_of_ne hReturn]
        exact .feed hLine hReturn hRest
    · next hOther =>
      have hStart : '\n' ∉ c :: start := by
        rw [List.mem_cons, not_or]
        exact ⟨Ne.symm hOther, h⟩
      have hText := ih _ hStart
      rwa [List.reverse_cons, List.append_assoc, List.singleton_append] at hText

/-- A text has one list of lines, and cutting it finds that list. -/
theorem hasLines_iff (s : String) (ls : List String) : HasLines s ls ↔ lines s = ls := by
  constructor
  · intro h
    have hCut := congrArg (List.map String.ofList) (Consists.linesAfter h)
    simpa [lines, Function.comp_def] using hCut
  · rintro rfl
    have hText := consists_linesAfter [] s.toList List.not_mem_nil
    simpa [HasLines, lines, Function.comp_def] using hText

/-- A blank line, a carriage return before a line feed, one elsewhere, and a line without end. -/
example : HasLines "a\r\n\nb\rc\nd\r" ["a", "", "b\rc", "d\r"] :=
  (hasLines_iff _ _).2 (by decide)

end GeoFilter.Text
