import GeoFilter.Value.Coercion

set_option autoImplicit false

/-! # Comparing values

Two values compare only when neither is missing and their kinds can be reconciled. A number
meets text as numbers where the text is one, and otherwise by the number's canonical text; a
truth value meets text that spells one; a geometry is compared only for equality, with another
geometry or with text that is one. Where two values do not compare, no operator holds between
them, inequality included. -/

namespace GeoFilter

/-- The order of two numbers; NaN has none. -/
def Number.order (x y : Float) : Option Ordering :=
  if x < y then some .lt
  else if x == y then some .eq
  else if y < x then some .gt
  else none

namespace Value

/-- The order of a number and a text. -/
def orderNumberText (x : Float) (s : String) : Option Ordering :=
  match Number.ofText? s with
  | some y => Number.order x y
  | none => some (compare (Number.canonical x) s)

/-- The order of two values, if they have one. Texts are ordered by code points, and false
    comes before true. -/
def order : Value → Value → Option Ordering
  | number x, number y => Number.order x y
  | number x, text s => orderNumberText x s
  | text s, number x => (orderNumberText x s).map Ordering.swap
  | text s, text t => some (compare s t)
  | bool b, bool c => some (compare b c)
  | bool b, text s => (boolOfText? s).map (compare b)
  | text s, bool b => (boolOfText? s).map (compare · b)
  | _, _ => none

/-- Whether two values are equal, if they compare at all. -/
def equal : Value → Value → Option Bool
  | geometry g, geometry h => some (g.same h)
  | geometry g, text s => (Geometry.ofWkt s).toOption.map (·.same g)
  | text s, geometry g => (Geometry.ofWkt s).toOption.map (·.same g)
  | v, w => (v.order w).map (· == .eq)

end Value

/-- A comparison operator. -/
inductive CompareOp where
  | eq
  | ne
  | lt
  | le
  | gt
  | ge
  deriving DecidableEq, Repr

namespace CompareOp

/-- The symbol of an operator. -/
def symbol : CompareOp → String
  | eq => "="
  | ne => "<>"
  | lt => "<"
  | le => "<="
  | gt => ">"
  | ge => ">="

/-- All operators. -/
def all : List CompareOp := [eq, ne, lt, le, gt, ge]

/-- Whether the comparison holds between two values. -/
def holds (op : CompareOp) (v w : Value) : Bool :=
  match op with
  | eq => v.equal w == some true
  | ne => v.equal w == some false
  | lt => v.order w == some .lt
  | le => v.order w == some .lt || v.order w == some .eq
  | gt => v.order w == some .gt
  | ge => v.order w == some .gt || v.order w == some .eq

end CompareOp

end GeoFilter
