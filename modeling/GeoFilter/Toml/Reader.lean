import GeoFilter.Toml.Quoted
import GeoFilter.Toml.Scalar

set_option autoImplicit false

/-! # Reading TOML documents

A document is a list of lines; a line is empty, the header of a table, or a key with a value,
with an optional comment. Arrays and tables between braces may go over several lines, and end
with an optional comma. -/

namespace GeoFilter.Toml

/-! ## Blanks and comments -/

/-- Skips the text of a comment up to the line end. -/
def skipComment : List Char → Option (List Char)
  | [] => some []
  | c :: cs =>
    if (newline? (c :: cs)).isSome then some (c :: cs)
    else if isPlain c then skipComment cs
    else none

/-- Skips blanks and, if there is one, a comment. -/
def skipToLineEnd (cs : List Char) : Option (List Char) :=
  match cs.dropWhile isSpace with
  | '#' :: rest => skipComment rest
  | rest => some rest

/-- Skips blanks, comments and line ends, at most `limit` of these. -/
def skipLines : (limit : Nat) → List Char → Option (List Char)
  | 0, cs => skipToLineEnd cs
  | limit + 1, cs =>
    match skipToLineEnd cs with
    | none => none
    | some rest =>
      match newline? rest with
      | some after => skipLines limit after
      | none => some rest

/-- Skips everything that has no meaning inside brackets. -/
def skipTrivia (cs : List Char) : Option (List Char) := skipLines cs.length cs

/-! ## Keys -/

/-- The characters of a key without quotes. -/
def isKeyChar (c : Char) : Bool := c.isAlphanum || c == '_' || c == '-'

/-- Reads a key without dots. -/
def simpleKey? (cs : List Char) : Step String :=
  match cs with
  | [] => none
  | c :: _ =>
    if c = '"' ∨ c = '\'' then (shortString? cs).map fun (s, rest) => (String.ofList s, rest)
    else
      let key := cs.takeWhile isKeyChar
      if key.isEmpty then none else some (String.ofList key, cs.drop key.length)

/-- Reads a key with at most `limit` parts, and skips the blanks after it. -/
def keyWithin : (limit : Nat) → List Char → Step (List String)
  | 0, _ => none
  | limit + 1, cs =>
    match simpleKey? (cs.dropWhile isSpace) with
    | none => none
    | some (key, rest) =>
      match rest.dropWhile isSpace with
      | '.' :: after => (keyWithin limit after).map fun (keys, rest) => (key :: keys, rest)
      | rest => some ([key], rest)

/-- Reads a dotted key. -/
def key? (cs : List Char) : Step (List String) := keyWithin cs.length cs

/-! ## Values -/

/-- The characters of numbers, truth values and dates. -/
def isScalarChar (c : Char) : Bool :=
  c.isAlphanum || c == '_' || c == '-' || c == '+' || c == '.' || c == ':'

/-- Reads a number, a truth value or a date. A date and a time may have one space between. -/
def scalarStep? (cs : List Char) : Step Toml :=
  let run := cs.takeWhile isScalarChar
  let rest := cs.drop run.length
  let time : List Char :=
    match rest with
    | ' ' :: after => if date? run == some [] then after.takeWhile isScalarChar else []
    | _ => []
  if time.head?.any Char.isDigit then
    (scalar? (run ++ ' ' :: time)).map fun value => (value, rest.drop (time.length + 1))
  else (scalar? run).map fun value => (value, rest)

/-- Reads the items of an array after its bracket, at most `limit` of them. -/
def arrayItems (value : List Char → Step Toml) : (limit : Nat) →
    List Char → Option (List Toml × List Char)
  | 0, _ => none
  | limit + 1, cs => do
    match ← skipTrivia cs with
    | ']' :: rest => some ([], rest)
    | cs =>
      let (item, rest) ← value cs
      match ← skipTrivia rest with
      | ',' :: after =>
        let (items, rest) ← arrayItems value limit after
        some (item :: items, rest)
      | ']' :: rest => some ([item], rest)
      | _ => none

/-- Reads a dotted key and its value. -/
def keyValue? (value : List Char → Step Toml) (cs : List Char) :
    Option ((List String × Toml) × List Char) := do
  let (path, rest) ← key? cs
  match rest with
  | '=' :: after =>
    let (v, rest) ← value (after.dropWhile isSpace)
    some ((path, v), rest)
  | _ => none

/-- Reads the entries of a table after its brace, at most `limit` of them. -/
def inlineEntries (value : List Char → Step Toml) :
    (limit : Nat) → Entries → List Char → Option (Entries × List Char)
  | 0, _, _ => none
  | limit + 1, entries, cs => do
    match ← skipTrivia cs with
    | [] => none
    | c :: rest =>
      if c.toNat = 125 then some (entries, rest)
      else
        let ((path, v), rest) ← keyValue? value (c :: rest)
        let entries ← define v path entries
        match ← skipTrivia rest with
        | [] => none
        | c :: after =>
          if c = ',' then inlineEntries value limit entries after
          else if c.toNat = 125 then some (entries, after)
          else none

mutual

/-- A value between braces with all tables inside it closed. -/
def sealed : Toml → Toml
  | .table _ entries => .table .inline (sealedEntries entries)
  | value => value

/-- Entries with all tables inside them closed. -/
def sealedEntries : List (String × Toml) → List (String × Toml)
  | [] => []
  | (key, value) :: rest => (key, sealed value) :: sealedEntries rest

end

/-- Reads a value with fewer than `levels` arrays and tables around each other. -/
def value? : (levels : Nat) → List Char → Step Toml
  | 0, _ => none
  | _ + 1, [] => none
  | levels + 1, c :: cs =>
    if c = '"' ∨ c = '\'' then
      (string? (c :: cs)).map fun (s, rest) => (.string (String.ofList s), rest)
    else if c = '[' then
      (arrayItems (value? levels) (cs.length + 1) cs).map fun (items, rest) => (.array items, rest)
    else if c.toNat = 123 then
      (inlineEntries (value? levels) (cs.length + 1) [] cs).map fun (entries, rest) =>
        (sealed (.table .inline entries), rest)
    else scalarStep? (c :: cs)

/-- The deepest nesting of values that is read. -/
def maxDepth : Nat := 80

/-! ## Documents -/

/-- A document so far: its entries, and the path of the last header. -/
structure Document where
  entries : Entries
  current : List String

namespace Document

/-- Opens what a header names. -/
def openHeader (d : Document) (element : Bool) (path : List String) : Option Document :=
  match path.getLast? with
  | none => none
  | some key =>
    let change := if element then openElement key else openTable key
    (Toml.within change path.dropLast d.entries).map fun entries => ⟨entries, path⟩

/-- Puts a value under a dotted key in the table of the last header. -/
def assign (d : Document) (path : List String) (value : Toml) : Option Document :=
  (Toml.within (define value path) d.current d.entries).map fun entries =>
    { d with entries }

/-- Reads a header after its first bracket. -/
def header? (d : Document) (cs : List Char) : Option (Document × List Char) :=
  match cs with
  | '[' :: cs => do
    let (path, rest) ← key? cs
    match rest with
    | ']' :: ']' :: rest => some (← d.openHeader true path, rest)
    | _ => none
  | _ => do
    let (path, rest) ← key? cs
    match rest with
    | ']' :: rest => some (← d.openHeader false path, rest)
    | _ => none

/-- Reads what stands on a line, if anything does. -/
def line? (d : Document) (cs : List Char) : Option (Document × List Char) :=
  match cs.dropWhile isSpace with
  | [] => some (d, [])
  | '[' :: rest => d.header? rest
  | c :: rest =>
    if c = '#' ∨ (newline? (c :: rest)).isSome then some (d, c :: rest)
    else do
      let ((path, value), rest) ← keyValue? (value? maxDepth) (c :: rest)
      some (← d.assign path value, rest)

/-- Reads lines, at most `limit` of them. -/
def lines? : (limit : Nat) → Document → List Char → Option Document
  | 0, _, _ => none
  | limit + 1, d, cs => do
    let (d, rest) ← d.line? cs
    match ← skipToLineEnd rest with
    | [] => some d
    | rest => d.lines? limit (← newline? rest)

end Document

/-- Reads a document. A byte order mark before it is skipped. -/
def parse (text : String) : Option Entries :=
  let cs := match text.toList with
    | c :: cs => if c.toNat = 0xFEFF then cs else c :: cs
    | [] => []
  ((Document.mk [] []).lines? (cs.length + 1) cs).map Document.entries

end GeoFilter.Toml
