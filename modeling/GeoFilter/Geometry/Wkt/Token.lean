import GeoFilter.Number.Decimal

set_option autoImplicit false

/-! # Tokens of geometry text

Geometry text is cut at blanks (space, tab, line ends), at parentheses and at commas; a NUL ends
it. What stands between two cuts is a number if it starts like one, with a digit, a sign or a
point, and a word otherwise. One leading plus sign of a number is dropped before it is read. A
number that cannot be read is a token of its own, so that text after a complete geometry is
never judged. -/

namespace GeoFilter.Wkt

/-- A token of geometry text. -/
inductive Token where
  | opening
  | closing
  | comma
  | number (x : Float)
  | word (text : String)
  | malformed

/-- The characters between tokens. -/
def isSpace (c : Char) : Bool := c = ' ' || c = '\t' || c = '\r' || c = '\n'

/-- The characters that a number starts with. -/
def startsNumber (c : Char) : Bool := c = '.' || c = '-' || c = '+' || c.isDigit

/-- The token that a run of other characters spells. -/
def Token.ofRun : List Char → Token
  | [] => .malformed
  | c :: cs =>
    if startsNumber c then
      match Number.readFloat (if c = '+' then cs else c :: cs) with
      | some x => .number x
      | none => .malformed
    else .word (String.ofList (c :: cs))

/-- The token of a run that was gathered in reverse, if there is a run. -/
def gathered (run : List Char) : List Token :=
  if run.isEmpty then [] else [.ofRun run.reverse]

/-- The tokens of a text that comes after the run `run` of other characters, in reverse. -/
def tokensAfter (run : List Char) : List Char → List Token
  | [] => gathered run
  | c :: cs =>
    if c.toNat = 0 then gathered run
    else if isSpace c then gathered run ++ tokensAfter [] cs
    else if c = '(' then gathered run ++ .opening :: tokensAfter [] cs
    else if c = ')' then gathered run ++ .closing :: tokensAfter [] cs
    else if c = ',' then gathered run ++ .comma :: tokensAfter [] cs
    else tokensAfter (c :: run) cs

/-- The tokens of a text. -/
def tokens (cs : List Char) : List Token := tokensAfter [] cs

end GeoFilter.Wkt
