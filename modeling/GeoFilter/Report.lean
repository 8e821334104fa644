import GeoFilter.Cql.SyntaxError

set_option autoImplicit false

/-! # Reports

The errors of all parts in one form: what kind of error it is, the part that found it, and the
wording. Syntax errors are grouped into a few classes. -/

namespace GeoFilter

/-- A group of syntax errors. -/
inductive SyntaxClass where
  | token
  | structural
  | function
  | literal
  | limit
  deriving DecidableEq, Repr

/-- The name of a class. -/
def SyntaxClass.name : SyntaxClass → String
  | token => "Token"
  | structural => "Structure"
  | function => "Function"
  | literal => "Literal"
  | limit => "Limit"

/-- The part that found an error. -/
inductive Origin where
  | geometry
  | lexer
  | parser
  | pattern
  deriving DecidableEq, Repr

/-- The name of an origin. -/
def Origin.name : Origin → String
  | geometry => "Geometry"
  | lexer => "Lexer"
  | parser => "Parser"
  | pattern => "Pattern"

/-- What kind of error it is. -/
inductive ReportKind where
  | invalidSyntax (group : SyntaxClass) (offset : Nat)
  | invalidPattern
  | invalidGeometry

/-- An error in the form that callers see. -/
structure Report where
  kind : ReportKind
  origin : Origin
  message : String

namespace Cql.Cause

/-- The group that a cause belongs to. -/
def group : Cause → SyntaxClass
  | invalidCharacter _ | unterminatedString => .token
  | emptyInput | nullTestOnExpression | unbalancedParenthesis | unexpectedEnd _
  | unexpectedToken _ _ => .structural
  | invalidArity _ _ _ | unknownFunction _ => .function
  | invalidGeometry _ | invalidNumber _ | invalidPattern _ => .literal
  | depthExceeded _ => .limit

/-- The part that finds a cause. -/
def origin : Cause → Origin
  | invalidCharacter _ | invalidNumber _ | unterminatedString => .lexer
  | invalidGeometry _ => .geometry
  | invalidPattern _ => .pattern
  | _ => .parser

end Cql.Cause

namespace Report

/-- The report of a syntax error. -/
def ofSyntaxError (e : Cql.SyntaxError) : Report :=
  ⟨.invalidSyntax e.cause.group e.offset, e.cause.origin, e.message⟩

/-- The report of a pattern that was refused. -/
def ofPatternError (e : PatternError) : Report := ⟨.invalidPattern, .pattern, e.message⟩

/-- The report of a geometry that was refused. -/
def ofWktError (e : WktError) : Report := ⟨.invalidGeometry, .geometry, e.message⟩

/-- The byte at which a syntax error was found. -/
def offset? (r : Report) : Option Nat :=
  match r.kind with
  | .invalidSyntax _ offset => some offset
  | _ => none

end Report

end GeoFilter
