import GeoFilter.Cql.SyntaxError
import GeoFilter.Cql.Token
import GeoFilter.Number.Decimal
import GeoFilter.Text.Blank

set_option autoImplicit false

/-! # Cutting CQL text into tokens

Tokens are separated by any number of spaces, tabs and line ends, and each token is as long as
it can be. A scanner is given the first character of a token and the text after it, and says
how many characters of that text still belong to the token.

A word for a geometry type followed by a dimension word and a balanced pair of parentheses, or
by `EMPTY`, is one token. A pair of parentheses that is opened there must be closed. -/

namespace GeoFilter.Cql

/-- The characters between tokens. -/
def isSpace (c : Char) : Bool := c == ' ' || c == '\t' || c == '\r' || c == '\n'

/-- The length of a text in bytes. -/
def byteLength : List Char → Nat
  | [] => 0
  | c :: cs => c.utf8Size + byteLength cs

/-- The number of characters at the start of a text that satisfy a test. -/
def runLength (test : Char → Bool) (cs : List Char) : Nat := (cs.takeWhile test).length

/-! ## Quoted text -/

/-- Reads quoted text after its opening quote: the content, in which a doubled quote stands for
    one, and the number of characters up to and with the closing quote. -/
def scanQuoted (quote : Char) : List Char → Option (List Char × Nat)
  | [] => none
  | [c] => if c = quote then some ([], 1) else none
  | c :: d :: rest =>
    if c = quote then
      if d = quote then
        (scanQuoted quote rest).map fun (content, n) => (quote :: content, n + 2)
      else some ([], 1)
    else (scanQuoted quote (d :: rest)).map fun (content, n) => (c :: content, n + 1)

/-! ## Numbers -/

/-- The length of a fraction: a point and any digits after it. -/
def fractionLength : List Char → Nat
  | '.' :: cs => 1 + runLength Char.isDigit cs
  | _ => 0

/-- The length of an exponent: the letter `e`, an optional sign and at least one digit. -/
def exponentLength : List Char → Nat
  | [] => 0
  | e :: cs =>
    if e = 'e' ∨ e = 'E' then
      match cs with
      | [] => 0
      | sign :: digits =>
        if sign = '+' ∨ sign = '-' then
          if runLength Char.isDigit digits = 0 then 0 else 2 + runLength Char.isDigit digits
        else if runLength Char.isDigit cs = 0 then 0 else 1 + runLength Char.isDigit cs
    else 0

/-- The number of characters that go on with a number that starts with `first`. -/
def numberLength (first : Char) (rest : List Char) : Nat :=
  let whole := runLength Char.isDigit rest
  let mantissa :=
    if first = '.' then whole else whole + fractionLength (rest.drop whole)
  mantissa + exponentLength (rest.drop mantissa)

/-! ## Geometry literals -/

/-- The number of characters up to and with the parenthesis that closes `depth + 1` open ones. -/
def closingLength (depth : Nat) : List Char → Option Nat
  | [] => none
  | c :: cs =>
    if c = '(' then (closingLength (depth + 1) cs).map (· + 1)
    else if c = ')' then
      match depth with
      | 0 => some 1
      | depth + 1 => (closingLength depth cs).map (· + 1)
    else (closingLength depth cs).map (· + 1)

/-- What follows the word for a geometry type: nothing that makes it a literal, parentheses that
    are never closed, or the rest of a literal. -/
inductive LiteralTail where
  | absent
  | unclosed
  | length (n : Nat)

/-- The length of the dimension word and the spaces after it, if there is a dimension word. -/
def dimensionLength (cs : List Char) : Nat :=
  let marker : Nat :=
    match (cs.take 2).map Char.toUpper with
    | 'Z' :: 'M' :: _ => 2
    | 'Z' :: _ => 1
    | 'M' :: _ => 1
    | _ => 0
  if marker = 0 then 0 else marker + runLength isSpace (cs.drop marker)

/-- What follows the word for a geometry type. -/
def literalTail (cs : List Char) : LiteralTail :=
  let spaces := runLength isSpace cs
  let before := spaces + dimensionLength (cs.drop spaces)
  match cs.drop before with
  | '(' :: body =>
    match closingLength 0 body with
    | some n => .length (before + 1 + n)
    | none => .unclosed
  | body =>
    if (body.take 5).map Char.toUpper = ['E', 'M', 'P', 'T', 'Y'] then .length (before + 5)
    else .absent

/-! ## Tokens -/

/-- Reads a word that starts with `first`. -/
def scanWord (first : Char) (rest : List Char) : Option (TokenKind × Nat) :=
  let n := runLength continuesWord rest
  let word := String.ofList (first :: rest.take n)
  let plain : TokenKind :=
    match Keyword.ofWord? word with
    | some keyword => .keyword keyword
    | none => .name word
  if isGeometryWord word then
    match literalTail (rest.drop n) with
    | .absent => some (plain, n)
    | .unclosed => none
    | .length m => some (.geometry (String.ofList (first :: rest.take (n + m))), n + m)
  else some (plain, n)

/-- Reads an operator or a punctuation mark that starts with `first`. -/
def scanMark (first : Char) (rest : List Char) : Option (TokenKind × Nat) :=
  match first, rest with
  | '<', '=' :: _ => some (.compare .le, 1)
  | '>', '=' :: _ => some (.compare .ge, 1)
  | '<', '>' :: _ => some (.compare .ne, 1)
  | '!', '=' :: _ => some (.compare .ne, 1)
  | '=', _ => some (.compare .eq, 0)
  | '<', _ => some (.compare .lt, 0)
  | '>', _ => some (.compare .gt, 0)
  | '(', _ => some (.opening, 0)
  | ')', _ => some (.closing, 0)
  | ',', _ => some (.comma, 0)
  | '+', _ => some (.arithmetic .add, 0)
  | '-', _ => some (.arithmetic .sub, 0)
  | '*', _ => some (.arithmetic .mul, 0)
  | '/', _ => some (.arithmetic .div, 0)
  | _, _ => none

/-- Whether a number starts here: with a digit, or with a point before a digit. -/
def startsNumber (first : Char) (rest : List Char) : Bool :=
  first.isDigit || (first == '.' && rest.head?.any Char.isDigit)

/-- Reads a number that starts with `first`; it must be finite. -/
def scanNumber (first : Char) (rest : List Char) : Option (TokenKind × Nat) :=
  let n := numberLength first rest
  ((Number.readFloat (first :: rest.take n)).filter Float.isFinite).map fun x => (.number x, n)

/-- Reads the token that starts with `first`: its kind, and how many characters of `rest` belong
    to it. -/
def scan (first : Char) (rest : List Char) : Option (TokenKind × Nat) :=
  if first = '\'' then
    (scanQuoted first rest).map fun (content, n) => (.text (String.ofList content), n)
  else if first = '"' then
    (scanQuoted first rest).map fun (content, n) => (.quotedName (String.ofList content), n)
  else if startsNumber first rest then scanNumber first rest
  else if startsWord first then scanWord first rest
  else scanMark first rest

/-- The error for text that no token starts with. It is told from the first character; the
    offending token is the text up to the next blank. -/
def scanError (offset : Nat) (first : Char) (rest : List Char) : SyntaxError :=
  let word := String.ofList ((first :: rest).takeWhile fun c => !Text.isBlank c)
  let cause : Cause :=
    if first = '\'' ∨ first = '"' then .unterminatedString
    else if first.isDigit then .invalidNumber word
    else if Text.isAlphabetic first then .unbalancedParenthesis
    else .invalidCharacter first
  ⟨cause, offset, some word⟩

/-- Skips the spaces at the start of a text and gives its offset after them. -/
def skipSpaces (offset : Nat) (cs : List Char) : Nat × List Char :=
  (offset + byteLength (cs.takeWhile isSpace), cs.dropWhile isSpace)

theorem length_skipSpaces (offset : Nat) (cs : List Char) :
    (skipSpaces offset cs).2.length ≤ cs.length :=
  (List.dropWhile_sublist isSpace).length_le

/-- The tokens of a text that starts at an offset. -/
def tokensFrom (offset : Nat) (cs : List Char) : Except SyntaxError (List Token) :=
  match _h : skipSpaces offset cs with
  | (_, []) => .ok []
  | (start, first :: rest) =>
    match scan first rest with
    | none => .error (scanError start first rest)
    | some (kind, n) =>
      let lexeme := first :: rest.take n
      (tokensFrom (start + byteLength lexeme) (rest.drop n)).map fun others =>
        ⟨kind, String.ofList lexeme, start⟩ :: others
  termination_by cs.length
  decreasing_by
    have := length_skipSpaces offset cs
    rw [_h] at this
    simp at this ⊢
    omega

/-- The tokens of a text. -/
def tokens (source : String) : Except SyntaxError (List Token) := tokensFrom 0 source.toList

end GeoFilter.Cql
