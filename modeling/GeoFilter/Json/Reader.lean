import GeoFilter.Json.Number

set_option autoImplicit false

/-! # Reading JSON text

The text is cut into tokens and the tokens are put together. Between tokens there may be spaces,
tabs and line ends; nothing but these may follow the value. Arrays and objects nest up to 127
levels. -/

namespace GeoFilter.Json

/-! ## Tokens -/

/-- A token of JSON text. -/
inductive Token where
  | openArray
  | closeArray
  | openObject
  | closeObject
  | colon
  | comma
  | scalar (value : Json)

/-- The characters between tokens. -/
def isSpace (c : Char) : Bool := c == ' ' || c == '\t' || c == '\r' || c == '\n'

/-- The value of a hexadecimal digit. -/
def hexDigit? (c : Char) : Option Nat :=
  if c.isDigit then some (c.toNat - 48)
  else if 'a' ≤ c ∧ c ≤ 'f' then some (c.toNat - 87)
  else if 'A' ≤ c ∧ c ≤ 'F' then some (c.toNat - 55)
  else none

/-- The number that four hexadecimal digits spell. -/
def hexFour? (a b c d : Char) : Option Nat := do
  return ((← hexDigit? a) * 16 + (← hexDigit? b)) * 256 + ((← hexDigit? c) * 16 + (← hexDigit? d))

/-- The character that a two-character escape stands for. -/
def simpleEscape? (c : Char) : Option Char :=
  if c = '"' ∨ c = '\\' ∨ c = '/' then some c
  else if c = 'b' then some '\x08'
  else if c = 'f' then some '\x0c'
  else if c = 'n' then some '\n'
  else if c = 'r' then some '\r'
  else if c = 't' then some '\t'
  else none

/-- One character of a string with the text after it. A character beyond the first plane is
    escaped by two code units; one of them alone stands for nothing. -/
def readChar : List Char → Option (Char × List Char)
  | [] => none
  | '\\' :: 'u' :: a :: b :: c :: d :: rest => do
    let first ← hexFour? a b c d
    if first < 0xD800 ∨ 0xDFFF < first then return (Char.ofNat first, rest)
    else if 0xDC00 ≤ first then none
    else
      match rest with
      | '\\' :: 'u' :: e :: f :: g :: h :: rest' =>
        let second ← hexFour? e f g h
        if second < 0xDC00 ∨ 0xDFFF < second then none
        else return (Char.ofNat ((first - 0xD800) * 1024 + (second - 0xDC00) + 0x10000), rest')
      | _ => none
  | '\\' :: c :: rest => (simpleEscape? c).map fun c => (c, rest)
  | c :: rest => if c = '\\' ∨ c.toNat < 32 then none else some (c, rest)

/-- Reads a string after its opening quote, up to and with the closing one. At most `limit`
    characters are read. -/
def readString : (limit : Nat) → List Char → Option (List Char × List Char)
  | 0, _ => none
  | _ + 1, '"' :: rest => some ([], rest)
  | limit + 1, cs =>
    match readChar cs with
    | none => none
    | some (c, rest) => (readString limit rest).map fun (content, after) => (c :: content, after)

/-- Takes the digits at the start of a text. -/
def takeDigits (cs : List Char) : List Char × List Char :=
  (cs.takeWhile Char.isDigit, cs.dropWhile Char.isDigit)

/-- Reads the parts of a number without its sign. A number does not start with a needless zero,
    and there are digits on both sides of a point and in an exponent. -/
def readNumberParts (negative : Bool) (cs : List Char) : Option (NumberParts × List Char) :=
  let (whole, rest) := takeDigits cs
  if whole.isEmpty ∨ (whole.head? = some '0' ∧ whole.length ≠ 1) then none
  else do
    let (fraction, rest) ←
      match rest with
      | '.' :: digits =>
        let (fraction, rest) := takeDigits digits
        if fraction.isEmpty then none else some (some fraction, rest)
      | _ => some (none, rest)
    let (exponent, rest) ←
      match rest with
      | [] => some (none, [])
      | e :: after =>
        if e = 'e' ∨ e = 'E' then
          let (sign, digits) : Bool × List Char :=
            match after with
            | '-' :: digits => (true, digits)
            | '+' :: digits => (false, digits)
            | digits => (false, digits)
          let (exponent, rest) := takeDigits digits
          if exponent.isEmpty then none else some (some (sign, exponent), rest)
        else some (none, e :: after)
    some (⟨negative, whole, fraction, exponent⟩, rest)

/-- Reads a number as a token. -/
def readNumber (negative : Bool) (cs : List Char) : Option (Token × List Char) := do
  let (parts, rest) ← readNumberParts negative cs
  let value ← parts.toJson?
  return (.scalar value, rest)

/-- Takes the text of a word off the front. -/
def readWord (word : List Char) (value : Json) (cs : List Char) : Option (Token × List Char) :=
  if word.isPrefixOf cs then some (.scalar value, cs.drop word.length) else none

/-- Reads the token that starts with a character. -/
def readToken (first : Char) (rest : List Char) : Option (Token × List Char) :=
  if first = '[' then some (.openArray, rest)
  else if first = ']' then some (.closeArray, rest)
  else if first.toNat = 123 then some (.openObject, rest)
  else if first.toNat = 125 then some (.closeObject, rest)
  else if first = ':' then some (.colon, rest)
  else if first = ',' then some (.comma, rest)
  else if first = '"' then
    (readString (rest.length + 1) rest).map fun (content, after) =>
      (.scalar (.string (String.ofList content)), after)
  else if first = '-' then readNumber true rest
  else if first.isDigit then readNumber false (first :: rest)
  else if first = 'n' then readWord "ull".toList .null rest
  else if first = 't' then readWord "rue".toList (.bool true) rest
  else if first = 'f' then readWord "alse".toList (.bool false) rest
  else none

/-- The tokens of a text, of which there are at most `limit`. -/
def tokensWithin : (limit : Nat) → List Char → Option (List Token)
  | 0, cs => if cs.all isSpace then some [] else none
  | limit + 1, cs =>
    match cs.dropWhile isSpace with
    | [] => some []
    | first :: rest =>
      match readToken first rest with
      | none => none
      | some (token, after) => (tokensWithin limit after).map (token :: ·)

/-- The tokens of a text; each one takes a character, which bounds their number. -/
def tokens (cs : List Char) : Option (List Token) := tokensWithin cs.length cs

/-! ## Values -/

/-- The result of reading a part: what was read and the tokens after it. -/
abbrev Step (α : Type) := Option (α × List Token)

/-- Reads the items of an array after its bracket, at most `limit` of them. -/
def readItems (item : List Token → Step Json) : (limit : Nat) → List Token → Step (List Json)
  | 0, _ => none
  | limit + 1, ts =>
    match item ts with
    | some (first, .comma :: rest) =>
      (readItems item limit rest).map fun (others, after) => (first :: others, after)
    | some (first, .closeArray :: rest) => some ([first], rest)
    | _ => none

/-- Reads the members of an object after its brace, at most `limit` of them. -/
def readMembers (item : List Token → Step Json) :
    (limit : Nat) → List Token → Step (List (String × Json))
  | limit + 1, .scalar (.string name) :: .colon :: ts =>
    match item ts with
    | some (first, .comma :: rest) =>
      (readMembers item limit rest).map fun (others, after) => ((name, first) :: others, after)
    | some (first, .closeObject :: rest) => some ([(name, first)], rest)
    | _ => none
  | _, _ => none

/-- Reads a value with at most `levels` arrays and objects around each other. -/
def readValue : (levels : Nat) → List Token → Step Json
  | _, .scalar value :: ts => some (value, ts)
  | _ + 1, .openArray :: .closeArray :: ts => some (.array [], ts)
  | levels + 1, .openArray :: ts =>
    (readItems (readValue levels) ts.length ts).map fun (items, rest) => (.array items, rest)
  | _ + 1, .openObject :: .closeObject :: ts => some (.object [], ts)
  | levels + 1, .openObject :: ts =>
    (readMembers (readValue levels) ts.length ts).map fun (members, rest) =>
      (.object members, rest)
  | _, _ => none

/-- The deepest nesting that is read. -/
def maxDepth : Nat := 127

/-- Reads JSON text. -/
def parse (text : String) : Option Json := do
  let ts ← tokens text.toList
  match readValue maxDepth ts with
  | some (value, []) => some value
  | _ => none

end GeoFilter.Json
