import GeoFilter.Expression
import GeoFilter.Like.Pattern
import GeoFilter.SpatialOp

set_option autoImplicit false

/-! # Filters

A filter accepts or rejects records. The constructors are the shapes that a filter can have;
`allOf` and `anyOf` build the usual conjunctions and disjunctions, which collapse when they have
fewer than two operands. -/

namespace GeoFilter

/-- A logical operator. -/
inductive LogicOp where
  | and
  | or
  | not
  deriving DecidableEq, Repr

/-- The operator's word. -/
def LogicOp.word : LogicOp → String
  | and => "AND"
  | or => "OR"
  | not => "NOT"

/-- A filter: one that accepts everything or nothing, a comparison, a combination of filters,
    membership in a list, a text pattern, a test for null, a spatial predicate, or a choice of
    records by identifier. -/
inductive Filter where
  | everything
  | nothing
  | comparison (op : CompareOp) (left right : Expression)
  | logic (op : LogicOp) (operands : List Filter)
  | oneOf (e : Expression) (candidates : List Expression) (negated : Bool)
  | like (e : Expression) (pattern : LikePattern) (negated : Bool)
  | isNull (name : String) (negated : Bool)
  | spatial (op : SpatialOp) (left right : Expression)
  | ids (candidates : List Value)

namespace Filter

/-! ## Building filters -/

/-- The conjunction of filters: everything if there is none, and a single filter itself. -/
def allOf : List Filter → Filter
  | [] => everything
  | [f] => f
  | fs => logic .and fs

/-- The disjunction of filters: nothing if there is none, and a single filter itself. -/
def anyOf : List Filter → Filter
  | [] => nothing
  | [f] => f
  | fs => logic .or fs

/-- Accepts what a filter rejects. -/
def negate (f : Filter) : Filter := logic .not [f]

/-- A value between two bounds, the bounds included. -/
def between (e low high : Expression) : Filter :=
  allOf [comparison .ge e low, comparison .le e high]

/-- A value below the one or above the other bound. -/
def notBetween (e low high : Expression) : Filter :=
  anyOf [comparison .lt e low, comparison .gt e high]

/-- A geometry that meets the rectangle with two opposite corners. -/
def inBox (e : Expression) (a b : Coord) : Filter :=
  spatial .bbox e (.literal (.geometry (.ofCorners a b)))

/-- A text that matches a pattern, if the pattern is small enough to compile. -/
def matching (e : Expression) (pattern : String) (relaxed negated : Bool) :
    Except PatternError Filter :=
  (LikePattern.compile pattern relaxed).map fun p => like e p negated

/-! ## Structural equality -/

mutual

/-- Two filters have one shape and the same parts. -/
def same : Filter → Filter → Bool
  | everything, everything => true
  | nothing, nothing => true
  | comparison op l r, comparison op' l' r' => op == op' && l.same l' && r.same r'
  | logic op fs, logic op' fs' => op == op' && sameOperands fs fs'
  | oneOf e cs n, oneOf e' cs' n' => e.same e' && sameLists Expression.same cs cs' && n == n'
  | like e p n, like e' p' n' => e.same e' && p == p' && n == n'
  | isNull a n, isNull a' n' => a == a' && n == n'
  | spatial op l r, spatial op' l' r' => op == op' && l.same l' && r.same r'
  | ids vs, ids vs' => sameLists Value.same vs vs'
  | _, _ => false

/-- Two lists of filters agree one by one. -/
def sameOperands : List Filter → List Filter → Bool
  | [], [] => true
  | f :: fs, g :: gs => f.same g && sameOperands fs gs
  | _, _ => false

end

end Filter

end GeoFilter
