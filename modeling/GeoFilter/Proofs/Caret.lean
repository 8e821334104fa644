import GeoFilter.Proofs.Location
import GeoFilter.Query

set_option autoImplicit false

/-! # Where the caret stands

A syntax error is shown as its wording, the source and a caret in a line below the source. The caret
is moved right by the characters of the whole source that come before the error, so it stands below
the character where the error is if the source is a single line, and never if it has more lines. -/

namespace GeoFilter

namespace Text

/-! ## Places in a text -/

/-- The line of the place that comes after a part of a text, counted from zero. -/
def row (before : List Char) : ℕ := before.count '\n'

/-- The column of the place that comes after a part of a text, counted from zero. -/
def column (before : List Char) : ℕ := (before.reverse.takeWhile (· ≠ '\n')).length

/-- Of two places, each given by what comes before it, the one is right below the other: in the next
    line and in the same column. -/
structure Below (low high : List Char) : Prop where
  row : row low = row high + 1
  column : column low = column high

theorem row_append (cs ds : List Char) : row (cs ++ ds) = row cs + row ds := List.count_append

theorem row_eq_zero_iff (cs : List Char) : row cs = 0 ↔ '\n' ∉ cs := List.count_eq_zero

/-- The column counts the characters after the last line feed. -/
theorem column_feed {line : List Char} (h : '\n' ∉ line) (cs : List Char) :
    column (cs ++ '\n' :: line) = line.length := by
  have hLine : ∀ c ∈ line.reverse, (decide (c ≠ '\n')) = true := by
    intro c hc
    rw [decide_eq_true_eq]
    rintro rfl
    exact h (List.mem_reverse.1 hc)
  rw [column, List.reverse_append, List.reverse_cons, List.append_assoc,
    List.takeWhile_append_of_pos hLine, List.singleton_append,
    List.takeWhile_cons_of_neg (by simp), List.append_nil, List.length_reverse]

/-- After a line feed the count starts again. -/
theorem column_lt_of_mem {cs : List Char} (h : '\n' ∈ cs) (ds : List Char) :
    column (ds ++ cs) < cs.length := by
  obtain ⟨line, before, hLine, hReverse⟩ := List.eq_append_cons_of_mem (List.mem_reverse.2 h)
  have hText : cs = before.reverse ++ '\n' :: line.reverse := by
    rw [← List.reverse_reverse cs, hLine]
    simp
  have hFree : '\n' ∉ line.reverse := by rwa [List.mem_reverse]
  rw [hText, ← List.append_assoc, column_feed hFree, List.length_append, List.length_cons]
  omega

end Text

namespace Cql

/-! ## The caret -/

theorem columnAt_byteLength (before after : List Char) :
    SyntaxError.columnAt (byteLength before) (before ++ after) = before.length := by
  induction before with
  | nil => cases after <;> rfl
  | cons c before ih =>
    have hSize : 0 < c.utf8Size := Char.utf8Size_pos c
    rw [List.cons_append, SyntaxError.columnAt, byteLength, if_neg (by omega),
      Nat.add_sub_cancel_left, ih, List.length_cons]

/-- What stands in a rendering before the character at which the error is. -/
def SyntaxError.upToError (e : SyntaxError) (before : String) : String :=
  e.message ++ "\n  " ++ before

/-- The spaces that move a caret as far as a number of characters after the margin. -/
def indent (n : ℕ) : String := "  " ++ String.ofList (List.replicate n ' ')

/-- What stands in a rendering before the caret. The caret has a line of its own after the source,
    and is as far right as there are characters in the source before the error. -/
def SyntaxError.upToCaret (e : SyntaxError) (before after : String) : String :=
  e.upToError before ++ after ++ "\n" ++ indent before.length

theorem render_eq {e : SyntaxError} {before : String} (h : before.utf8ByteSize = e.offset)
    (after : String) : e.render (before ++ after) = e.upToCaret before after ++ "^" := by
  have hOffset : byteLength before.toList = e.offset := by
    rw [← utf8ByteSize_ofList, String.ofList_toList, h]
  have hColumn : SyntaxError.columnAt e.offset (before ++ after).toList = before.length := by
    rw [← hOffset, String.toList_append, columnAt_byteLength, String.length_toList]
  have hSpaces : ("\n  " : String) = "\n" ++ "  " := rfl
  show e.message ++ "\n  " ++ (before ++ after) ++ "\n  "
    ++ String.ofList (List.replicate (SyntaxError.columnAt e.offset (before ++ after).toList) ' ')
    ++ "^" = _
  rw [hColumn, SyntaxError.upToCaret, SyntaxError.upToError, indent]
  simp only [hSpaces, String.append_assoc]

theorem row_upToCaret (e : SyntaxError) (before after : String) :
    Text.row (e.upToCaret before after).toList
      = Text.row (e.upToError before).toList + Text.row after.toList + 1 := by
  have hIndent : Text.row (indent before.length).toList = 0 := by
    rw [Text.row_eq_zero_iff]
    simp [indent]
  simp only [SyntaxError.upToCaret, String.toList_append, Text.row_append, hIndent]
  rfl

theorem column_upToCaret (e : SyntaxError) (before after : String) :
    Text.column (e.upToCaret before after).toList = before.length + 2 := by
  have hLine : '\n' ∉ (indent before.length).toList := by simp [indent]
  have hText : (e.upToCaret before after).toList
      = (e.upToError before ++ after).toList ++ '\n' :: (indent before.length).toList := by
    simp [SyntaxError.upToCaret]
  rw [hText, Text.column_feed hLine]
  simp [indent]

/-- Only in the first line of the source are the characters before a place all of those in its
    line. -/
theorem column_upToError_iff (e : SyntaxError) (before : String) :
    Text.column (e.upToError before).toList = before.length + 2 ↔ '\n' ∉ before.toList := by
  have hText : (e.upToError before).toList
      = e.message.toList ++ '\n' :: (' ' :: ' ' :: before.toList) := by
    simp [SyntaxError.upToError]
  constructor
  · intro hColumn hMem
    have hLess := Text.column_lt_of_mem hMem (e.message ++ "\n  ").toList
    rw [← String.toList_append, String.length_toList] at hLess
    rw [SyntaxError.upToError] at hColumn
    omega
  · intro hFree
    rw [hText, Text.column_feed (by simpa using hFree), List.length_cons, List.length_cons,
      String.length_toList]

/-- A syntax error is shown with all of the source, in which the error is at its offset, and with a
    caret in a line of its own after the source. The caret stands below the character at which the
    error is exactly if the source has no line feed. -/
theorem caret_below_iff {source : String} {m : ℕ} {e : SyntaxError}
    (h : parse source m = .error e) :
    ∃ before after, source = before ++ after ∧ before.utf8ByteSize = e.offset ∧
      e.render source = e.upToCaret before after ++ "^" ∧
      (Text.Below (e.upToCaret before after).toList (e.upToError before).toList ↔
        '\n' ∉ source.toList) := by
  have hLocated := parse_located source m
  rw [h] at hLocated
  cases hLocated with
  | error hPoints =>
    obtain ⟨before, after, hSource, hOffset⟩ := hPoints.stands.empty
    rw [String.append_empty] at hSource
    subst hSource
    refine ⟨before, after, rfl, hOffset, render_eq hOffset after, ?_⟩
    rw [String.toList_append, List.mem_append, not_or, ← column_upToError_iff e before,
      ← Text.row_eq_zero_iff after.toList]
    constructor
    · rintro ⟨hRow, hColumn⟩
      rw [row_upToCaret] at hRow
      rw [column_upToCaret] at hColumn
      exact ⟨hColumn.symm, by omega⟩
    · rintro ⟨hColumn, hRow⟩
      exact ⟨by rw [row_upToCaret, hRow], by rw [column_upToCaret, hColumn]⟩

/-- Below a line in which some characters take two bytes. -/
theorem caret_below_iff_umlaut :
    ∃ e, parse "größe = ;" 64 = .error e ∧
      ∃ before after, "größe = ;" = before ++ after ∧ before.utf8ByteSize = e.offset ∧
        e.render "größe = ;" = e.upToCaret before after ++ "^" ∧
        Text.Below (e.upToCaret before after).toList (e.upToError before).toList := by
  have hError : (parse "größe = ;" 64).isOk = false := by decide +kernel
  cases hParse : parse "größe = ;" 64 with
  | ok f =>
    rw [hParse] at hError
    exact absurd hError.symm Bool.false_ne_true
  | error e =>
    obtain ⟨before, after, hSource, hOffset, hRender, hBelow⟩ := caret_below_iff hParse
    exact ⟨e, rfl, before, after, hSource, hOffset, hRender, hBelow.2 (by decide)⟩

/-- In a second line the caret is too far right, by all of the first line and the margin. -/
theorem caret_not_below_second_line :
    (∃ e, parse "x = 1\n; y" 64 = .error e ∧ "x = 1\n".utf8ByteSize = e.offset ∧
      e.render "x = 1\n; y" = e.message ++ "\n  x = 1\n; y\n        ^" ∧
      Text.column (e.message ++ "\n  x = 1\n").toList = 0 ∧
      Text.column (e.message ++ "\n  x = 1\n; y\n        ").toList = 8) ∧
    ¬ ∀ (source : String) (m : ℕ) (e : SyntaxError) (before after upToCaret : String),
      parse source m = .error e → source = before ++ after → before.utf8ByteSize = e.offset →
      e.render source = upToCaret ++ "^" →
      Text.Below upToCaret.toList (e.upToError before).toList := by
  have hError : (match parse "x = 1\n; y" 64 with
      | .error e => e.offset == 6
      | .ok _ => false) = true := by decide +kernel
  cases hParse : parse "x = 1\n; y" 64 with
  | ok f =>
    rw [hParse] at hError
    exact absurd hError Bool.false_ne_true
  | error e =>
    rw [hParse] at hError
    have hOffset : "x = 1\n".utf8ByteSize = e.offset := (beq_iff_eq.1 hError).symm
    have hRender := render_eq hOffset "; y"
    have hUpToError : e.upToError "x = 1\n" = e.message ++ "\n  x = 1\n" := by
      rw [SyntaxError.upToError, String.append_assoc]
      rfl
    have hUpToCaret : e.upToCaret "x = 1\n" "; y" = e.message ++ "\n  x = 1\n; y\n        " := by
      rw [SyntaxError.upToCaret, hUpToError]
      simp only [String.append_assoc]
      rfl
    have hColumn : Text.column (e.message ++ "\n  x = 1\n").toList = 0 := by
      have hText : (e.message ++ "\n  x = 1\n").toList
          = (e.message ++ "\n  x = 1").toList ++ ['\n'] := by simp
      rw [hText]
      exact Text.column_feed List.not_mem_nil _
    have hCaret : Text.column (e.message ++ "\n  x = 1\n; y\n        ").toList = 8 := by
      rw [← hUpToCaret, column_upToCaret]
      rfl
    refine ⟨⟨e, rfl, hOffset, ?_, hColumn, hCaret⟩, ?_⟩
    · rw [hUpToCaret, String.append_assoc] at hRender
      exact hRender
    · intro hAlways
      have hBelow := (hAlways _ _ e "x = 1\n" "; y" _ hParse rfl hOffset hRender).column
      rw [hUpToError, hUpToCaret, hColumn, hCaret] at hBelow
      exact absurd hBelow (by decide)

end Cql

end GeoFilter
