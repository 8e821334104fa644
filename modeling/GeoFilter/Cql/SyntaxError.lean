import GeoFilter.Geometry.Wkt.Reader
import GeoFilter.Like.Pattern

set_option autoImplicit false

/-! # Syntax errors

Why CQL text was refused, at which byte, and at which token if there is one there. The first
error found is the only one. -/

namespace GeoFilter.Cql

/-- What would have been right at a token. -/
inductive Expectation where
  | expression
  | comparisonOperator
  | opening
  | closing
  | nullWord
  | andWord
  | negatable
  | likePattern
  | featureId
  | coordinate
  | connective
  | ending
  deriving DecidableEq, Repr

namespace Expectation

/-- The wording of an expectation. -/
def text : Expectation → String
  | expression => "expression"
  | comparisonOperator => "comparison operator"
  | opening => "'('"
  | closing => "')'"
  | nullWord => "NULL"
  | andWord => "AND"
  | negatable => "IN, LIKE or BETWEEN"
  | likePattern => "quoted LIKE pattern"
  | featureId => "literal feature id"
  | coordinate => "numeric coordinate"
  | connective => "AND, OR or ')'"
  | ending => "AND, OR or end of input"

end Expectation

/-- The numbers of arguments that a function takes. -/
inductive Arity where
  | none
  | two
  | twoOrFive
  deriving DecidableEq, Repr

/-- The wording of a number of arguments. -/
def Arity.text : Arity → String
  | none => "0"
  | two => "2"
  | twoOrFive => "2 or 5"

/-- Why text was refused. -/
inductive Cause where
  | depthExceeded (limit : Nat)
  | emptyInput
  | invalidArity (function : String) (expected : Arity) (found : Nat)
  | invalidCharacter (c : Char)
  | invalidGeometry (reason : WktError)
  | invalidNumber (text : String)
  | invalidPattern (reason : PatternError)
  | nullTestOnExpression
  | unbalancedParenthesis
  | unexpectedEnd (expected : Expectation)
  | unexpectedToken (expected : Expectation) (found : String)
  | unknownFunction (name : String)
  | unterminatedString

/-- The wording of a cause. -/
def Cause.message : Cause → String
  | depthExceeded limit => s!"expression nests deeper than {limit} levels"
  | emptyInput => "empty filter expression"
  | invalidArity function expected found =>
    s!"{function} takes {expected.text} argument(s), found {found}"
  | invalidCharacter c => s!"unexpected character '{c}'"
  | invalidGeometry reason => s!"invalid geometry literal: {reason.message}"
  | invalidNumber text => s!"invalid number literal '{text}'"
  | invalidPattern reason => s!"invalid LIKE pattern: {reason.reason}"
  | nullTestOnExpression => "IS NULL requires an attribute name on its left"
  | unbalancedParenthesis => "unbalanced parenthesis"
  | unexpectedEnd expected => s!"unexpected end of input, expected {expected.text}"
  | unexpectedToken expected found => s!"expected {expected.text}, found '{found}'"
  | unknownFunction name => s!"unknown function '{name}'"
  | unterminatedString => "unterminated quoted text"

/-- A refusal: the cause, the offset in bytes, and the text of the offending token. -/
structure SyntaxError where
  cause : Cause
  offset : Nat
  token : Option String

namespace SyntaxError

/-- The full wording. -/
def message (e : SyntaxError) : String :=
  match e.token with
  | some token => s!"syntax error at offset {e.offset} near '{token}': {e.cause.message}"
  | none => s!"syntax error at offset {e.offset}: {e.cause.message}"

end SyntaxError

end GeoFilter.Cql
