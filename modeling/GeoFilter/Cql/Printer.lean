import GeoFilter.Cql.Token
import GeoFilter.Filter.Basic

set_option autoImplicit false

/-! # Writing filters as CQL text

Arithmetic and logical combinations are always written in parentheses, so that reading them back
needs no precedence. A name is written plainly if it reads back as a name, and in double quotes
otherwise. Two things have no text of their own: an absent value is written as NULL, which
compares in the same way, and a combination that is not one of the usual ones is written as a
filter that accepts the same records. -/

namespace GeoFilter

namespace Cql

/-- Text between quotes, with the quotes inside it doubled. -/
def quoteWith (quote : Char) (content : List Char) : List Char :=
  quote :: (content.flatMap (fun c => if c = quote then [c, c] else [c]) ++ [quote])

/-- Parts with the same text between any two of them. -/
def joinWith (separator : List Char) : List (List Char) → List Char
  | [] => []
  | [part] => part
  | part :: parts => part ++ separator ++ joinWith separator parts

/-- A text literal. -/
def textChars (s : String) : List Char := quoteWith '\'' s.toList

/-- An attribute name. -/
def nameChars (name : String) : List Char :=
  if isPlainName name then name.toList else quoteWith '"' name.toList

/-- The word that turns a test around. -/
def negationChars (negated : Bool) : List Char := if negated then "NOT ".toList else []

end Cql

open Cql

/-- A value as a literal. -/
def Value.literalChars : Value → List Char
  | .absent => "NULL".toList
  | .null => "NULL".toList
  | .number x => (Number.canonical x).toList
  | .text s => textChars s
  | .bool true => "TRUE".toList
  | .bool false => "FALSE".toList
  | .geometry g => g.wktChars

/-- The text of an expression, character by character. -/
def Expression.cqlChars : Expression → List Char
  | .literal value => value.literalChars
  | .attr name => nameChars name
  | .defaultGeometry => "geometry()".toList
  | .arithmetic op left right =>
    '(' :: (left.cqlChars ++ ' ' :: (op.symbol.toList ++ ' ' :: (right.cqlChars ++ [')'])))

/-- The text of an expression. -/
def Expression.toCql (e : Expression) : String := String.ofList e.cqlChars

namespace Filter

/-- The text of a spatial predicate. A rectangle in a box test is written by its corners. -/
def spatialChars (op : SpatialOp) (left right : Expression) : List Char :=
  let arguments : List (List Char) :=
    match op, right with
    | .bbox, .literal (.geometry (.rect low high)) =>
      left.cqlChars ::
        [low.x, low.y, high.x, high.y].map fun x => (Number.canonical x).toList
    | _, _ => [left.cqlChars, right.cqlChars]
  op.name.toList ++ '(' :: (joinWith ", ".toList arguments ++ [')'])

/-- The text of a combination, given the texts of its operands. -/
def logicChars (op : LogicOp) (operands : List (List Char)) : List Char :=
  match op, operands with
  | .and, [] => "INCLUDE".toList
  | .or, [] => "EXCLUDE".toList
  | .not, [operand] => "NOT (".toList ++ (operand ++ [')'])
  | .not, [] => "NOT INCLUDE".toList
  | .not, operands => "NOT (".toList ++ (joinWith " AND ".toList operands ++ [')'])
  | op, operands =>
    '(' :: (joinWith (' ' :: (op.word.toList ++ [' '])) operands ++ [')'])

mutual

/-- The text of a filter, character by character. -/
def cqlChars : Filter → List Char
  | everything => "INCLUDE".toList
  | nothing => "EXCLUDE".toList
  | comparison op left right =>
    left.cqlChars ++ ' ' :: (op.symbol.toList ++ ' ' :: right.cqlChars)
  | logic op operands => logicChars op (operandChars operands)
  | oneOf e candidates negated =>
    e.cqlChars ++ ' ' :: (negationChars negated ++ "IN (".toList ++
      joinWith ", ".toList (candidates.map Expression.cqlChars) ++ [')'])
  | like e pattern negated =>
    e.cqlChars ++ ' ' :: (negationChars negated ++ "LIKE ".toList ++ textChars pattern.source)
  | isNull name negated => nameChars name ++ " IS ".toList ++ negationChars negated ++ "NULL".toList
  | spatial op left right => spatialChars op left right
  | ids candidates =>
    "IN (".toList ++ (joinWith ", ".toList (candidates.map Value.literalChars) ++ [')'])

/-- The texts of the operands of a combination. -/
def operandChars : List Filter → List (List Char)
  | [] => []
  | f :: fs => f.cqlChars :: operandChars fs

end

/-- The text of a filter. -/
def toCql (f : Filter) : String := String.ofList f.cqlChars

end Filter

end GeoFilter
