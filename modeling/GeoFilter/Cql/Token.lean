import GeoFilter.Expression
import GeoFilter.Text.Letters
import GeoFilter.Text.Numeric

set_option autoImplicit false

/-! # Tokens of CQL text

A token has a kind, the text that it was written with, and its offset in bytes. Words are
keywords in any ASCII case, names of geometry types, or names of attributes and functions. -/

namespace GeoFilter.Cql

/-! ## Words -/

/-- A keyword. -/
inductive Keyword where
  | AND
  | BETWEEN
  | EXCLUDE
  | FALSE
  | IN
  | INCLUDE
  | IS
  | LIKE
  | NOT
  | NULL
  | OR
  | TRUE
  deriving DecidableEq, Repr

namespace Keyword

/-- The word in upper case. -/
def word : Keyword → String
  | AND => "AND"
  | BETWEEN => "BETWEEN"
  | EXCLUDE => "EXCLUDE"
  | FALSE => "FALSE"
  | IN => "IN"
  | INCLUDE => "INCLUDE"
  | IS => "IS"
  | LIKE => "LIKE"
  | NOT => "NOT"
  | NULL => "NULL"
  | OR => "OR"
  | TRUE => "TRUE"

/-- All keywords. -/
def all : List Keyword :=
  [AND, BETWEEN, EXCLUDE, FALSE, IN, INCLUDE, IS, LIKE, NOT, NULL, OR, TRUE]

/-- The keyword that a word is, in any ASCII case. -/
def ofWord? (text : String) : Option Keyword :=
  all.find? fun keyword => Text.sameLetters keyword.word text

end Keyword

/-- The words that a geometry literal starts with. -/
def geometryWords : List String :=
  ["POINT", "LINESTRING", "POLYGON", "MULTIPOINT", "MULTILINESTRING", "MULTIPOLYGON",
    "GEOMETRYCOLLECTION"]

/-- Whether a word can start a geometry literal. -/
def isGeometryWord (text : String) : Bool := geometryWords.any fun w => Text.sameLetters w text

/-- The characters that a word starts with. -/
def startsWord (c : Char) : Bool := Text.isAlphabetic c || c == '_'

/-- The characters that a word goes on with. -/
def continuesWord (c : Char) : Bool :=
  Text.isAlphanumeric c || c == '_' || c == '.' || c == ':'

/-- Whether a name can be written as a plain word: it reads as one, and as nothing else. -/
def isPlainName (name : String) : Bool :=
  match name.toList with
  | [] => false
  | c :: cs =>
    startsWord c && cs.all continuesWord && (Keyword.ofWord? name).isNone && !isGeometryWord name

/-! ## Tokens -/

/-- What a token is. -/
inductive TokenKind where
  | name (text : String)
  | quotedName (text : String)
  | number (x : Float)
  | text (content : String)
  | geometry (source : String)
  | keyword (word : Keyword)
  | compare (op : CompareOp)
  | arithmetic (op : ArithmeticOp)
  | opening
  | closing
  | comma

/-- A token with the text it was written with and its offset in bytes. -/
structure Token where
  kind : TokenKind
  lexeme : String
  offset : Nat

end GeoFilter.Cql
