set_option autoImplicit false

/-! # Regular expressions

An expression is matched against the characters of a text, somewhere in the text unless marks for
the start and the end of the text stand in it. The expressions here are sequences of such marks, of
tests of one character, and of runs of characters that pass a test; groups may stand around what
belongs together. An expression with anything else in it is not read.

Matching goes part by part from the right and keeps, for every suffix of the text, whether the parts
so far match at its start, so that it takes no more steps than parts times characters. -/

namespace GeoFilter.Regex

/-- A test of one character. -/
inductive CharTest where
  | any
  | notNewline
  | exactly (c : Char)
  deriving DecidableEq, Repr

/-- Whether a character passes a test. -/
def CharTest.holds : CharTest → Char → Bool
  | any, _ => true
  | notNewline, c => c != '\n'
  | exactly d, c => c == d

/-- One part of an expression: the start or the end of the text, or one character or any number of
    characters that pass a test. -/
inductive Part where
  | textStart
  | textEnd
  | one (test : CharTest)
  | many (test : CharTest)
  deriving DecidableEq, Repr

/-! ## Text -/

/-- Whether a character may mean something other than itself in an expression. -/
def isMark (c : Char) : Bool :=
  ['\\', '.', '+', '*', '?', '(', ')', '|', '[', ']', '{', '}', '^', '$', '#', '&', '-',
    '~'].contains c

/-- The text of the expression that matches these characters and nothing else. -/
def escape (cs : List Char) : List Char := cs.flatMap fun c => if isMark c then ['\\', c] else [c]

/-- Reads parts up to the end of a text. A point tests `dot`, `groups` groups are open, and `parts`
    were read before, the last one first. -/
def readParts (dot : CharTest) (groups : Nat) (parts : List Part) : List Char → Option (List Part)
  | [] => if groups = 0 then some parts.reverse else none
  | '(' :: '?' :: ':' :: cs => readParts dot (groups + 1) parts cs
  | ')' :: cs => if groups = 0 then none else readParts dot (groups - 1) parts cs
  | '^' :: cs => readParts dot groups (.textStart :: parts) cs
  | '$' :: cs => readParts dot groups (.textEnd :: parts) cs
  | '.' :: '*' :: cs => readParts dot groups (.many dot :: parts) cs
  | '.' :: cs => readParts dot groups (.one dot :: parts) cs
  | '\\' :: c :: '*' :: cs =>
    if isMark c then readParts dot groups (.many (.exactly c) :: parts) cs else none
  | '\\' :: c :: cs =>
    if isMark c then readParts dot groups (.one (.exactly c) :: parts) cs else none
  | c :: '*' :: cs =>
    if isMark c then none else readParts dot groups (.many (.exactly c) :: parts) cs
  | c :: cs => if isMark c then none else readParts dot groups (.one (.exactly c) :: parts) cs

/-- The parts of an expression. A point stands for any character but a newline, and for that too if
    the expression begins with the flag `s`. -/
def read : List Char → Option (List Part)
  | '(' :: '?' :: 's' :: ')' :: cs => readParts .any 0 [] cs
  | cs => readParts .notNewline 0 [] cs

/-! ## Matching -/

/-- Adds a part in front: from where the parts after it match, where all of them match. Both lists
    have an entry for each suffix of `text`, the longest first. -/
def Part.extend (part : Part) (atStart : Bool) (text : List Char) (rest : List Bool) : List Bool :=
  match text, rest with
  | [], r :: _ =>
    match part with
    | textStart => [atStart && r]
    | textEnd => [r]
    | one _ => [false]
    | many _ => [r]
  | c :: cs, r :: rs =>
    let later := extend part false cs rs
    match part with
    | textStart => (atStart && r) :: later
    | textEnd => false :: later
    | one test => (test.holds c && rs.headD false) :: later
    | many test => (r || (test.holds c && later.headD false)) :: later
  | _, [] => []

/-- For each suffix of a text, whether the parts match at its start. -/
def matchSuffixes (text : List Char) : List Part → List Bool
  | [] => List.replicate (text.length + 1) true
  | part :: parts => part.extend true text (matchSuffixes text parts)

/-- Whether the parts match somewhere in a text. -/
def isMatch (parts : List Part) (text : List Char) : Bool := (matchSuffixes text parts).any id

/-! ## Size -/

/-- The bytes that a test takes when it is compiled. -/
def CharTest.compiledSize : CharTest → Nat
  | any => 264
  | notNewline => 264
  | exactly c => 24 * c.utf8Size

/-- The bytes that a part takes when it is compiled. -/
def Part.compiledSize : Part → Nat
  | textStart => 0
  | textEnd => 0
  | one test => test.compiledSize
  | many test => test.compiledSize + 40

/-- The bytes that an expression takes when it is compiled. -/
def compiledSize (parts : List Part) : Nat :=
  parts.foldr (fun part size => part.compiledSize + size) 0

end GeoFilter.Regex
