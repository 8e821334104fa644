import GeoFilter.Json.Reader

set_option autoImplicit false

/-! # Strings in TOML

Strings stand between double quotes, with escapes, or between single quotes, without. Either
kind may stand between three quotes on each side and then go over several lines: a line end
right after the opening is dropped, a backslash at the end of a line drops all blanks up to the
next text, and up to two quotes may stand before the closing ones. -/

namespace GeoFilter.Toml

/-- What was read, and the text after it. -/
abbrev Step (α : Type) := Option (α × List Char)

/-- The blanks within a line. -/
def isSpace (c : Char) : Bool := c == ' ' || c == '\t'

/-- Whether a character may stand in text: all but control characters, tabs apart. -/
def isPlain (c : Char) : Bool := c == '\t' || (32 ≤ c.toNat && c.toNat != 127)

/-- Takes a line end off the front. -/
def newline? : List Char → Option (List Char)
  | '\n' :: cs => some cs
  | '\r' :: '\n' :: cs => some cs
  | _ => none

/-- Reads a character by its code in `count` hexadecimal digits. -/
def codeEscape? (count : Nat) (cs : List Char) : Option (Char × List Char) := do
  let digits ← (cs.take count).mapM Json.hexDigit?
  let n := digits.foldl (fun n d => 16 * n + d) 0
  if digits.length = count ∧ n.isValidChar then some (Char.ofNat n, cs.drop count) else none

/-- Reads an escape after its backslash. -/
def escape? : List Char → Step Char
  | 'b' :: cs => some ('\x08', cs)
  | 't' :: cs => some ('\t', cs)
  | 'n' :: cs => some ('\n', cs)
  | 'f' :: cs => some ('\x0c', cs)
  | 'r' :: cs => some ('\r', cs)
  | 'e' :: cs => some ('\x1b', cs)
  | '"' :: cs => some ('"', cs)
  | '\\' :: cs => some ('\\', cs)
  | 'x' :: cs => codeEscape? 2 cs
  | 'u' :: cs => codeEscape? 4 cs
  | 'U' :: cs => codeEscape? 8 cs
  | _ => none

/-- Reads the content of a string on one line and its closing quote. -/
def lineString (quote : Char) : (limit : Nat) → List Char → Step (List Char)
  | limit + 1, c :: cs =>
    if c = quote then some ([], cs)
    else if c = '\\' ∧ quote = '"' then
      match escape? cs with
      | some (d, rest) => (lineString quote limit rest).map fun (s, after) => (d :: s, after)
      | none => none
    else if isPlain c then (lineString quote limit cs).map fun (s, after) => (c :: s, after)
    else none
  | _, _ => none

/-- Drops blanks and line ends. -/
def dropBlanks (cs : List Char) : List Char :=
  cs.dropWhile fun c => isSpace c || c == '\n' || c == '\r'

/-- Reads the content of a string over several lines and its closing quotes. -/
def blockString (quote : Char) : (limit : Nat) → List Char → Step (List Char)
  | limit + 1, c :: cs =>
    let continueWith (front : List Char) (rest : List Char) : Step (List Char) :=
      (blockString quote limit rest).map fun (s, after) => (front ++ s, after)
    if c = quote then
      let count := min 5 ((c :: cs).takeWhile (· = quote)).length
      if count < 3 then continueWith [c] cs
      else some (List.replicate (count - 3) quote, (c :: cs).drop count)
    else if c = '\\' ∧ quote = '"' then
      match newline? (cs.dropWhile isSpace) with
      | some rest => continueWith [] (dropBlanks rest)
      | none =>
        match escape? cs with
        | some (d, rest) => continueWith [d] rest
        | none => none
    else
      match newline? (c :: cs) with
      | some rest => continueWith ['\n'] rest
      | none => if isPlain c then continueWith [c] cs else none
  | _, _ => none

/-- Reads a string. -/
def string? (cs : List Char) : Step (List Char) :=
  match cs with
  | a :: b :: c :: rest =>
    if a ≠ '"' ∧ a ≠ '\'' then none
    else if a = b ∧ b = c then
      blockString a (rest.length + 1) ((newline? rest).getD rest)
    else lineString a (rest.length + 3) (b :: c :: rest)
  | a :: rest => if a ≠ '"' ∧ a ≠ '\'' then none else lineString a (rest.length + 1) rest
  | [] => none

/-- Reads a string that stays on one line. -/
def shortString? : List Char → Step (List Char)
  | quote :: rest =>
    if quote = '"' ∨ quote = '\'' then lineString quote (rest.length + 1) rest else none
  | [] => none

end GeoFilter.Toml
