import GeoFilter.Planar.Relation
import GeoFilter.Text.Letters

set_option autoImplicit false

/-! # Spatial predicates

A predicate on two geometries looks for a pattern in the matrix that relates them, and no predicate
holds when a coordinate is not finite. How geometries are related is a parameter of all that decides
such a predicate. -/

namespace GeoFilter

/-- A way to relate geometries. Filters only look at the matrix: what a theorem asks of the
    operation beyond that is among its hypotheses. -/
class Relate where
  /-- How the left geometry lies to the right one. -/
  relate (left right : Geometry) : Planar.Matrix

/-- Geometries are related as their sets of points, without rounding. A program that is given no
    other way runs with this one. -/
instance Relate.exact : Relate where
  relate left right := .ofFigures left.figure right.figure

/-- A spatial predicate. -/
inductive SpatialOp where
  | bbox
  | contains
  | crosses
  | disjoint
  | equals
  | intersects
  | overlaps
  | touches
  | within
  deriving DecidableEq, Repr

namespace SpatialOp

/-- The name of the predicate's function. -/
def name : SpatialOp → String
  | bbox => "BBOX"
  | contains => "CONTAINS"
  | crosses => "CROSSES"
  | disjoint => "DISJOINT"
  | equals => "EQUALS"
  | intersects => "INTERSECTS"
  | overlaps => "OVERLAPS"
  | touches => "TOUCHES"
  | within => "WITHIN"

/-- All spatial operators, in the order of their names. -/
def all : List SpatialOp :=
  [bbox, contains, crosses, disjoint, equals, intersects, overlaps, touches, within]

/-- The predicate whose function has a name, in any ASCII case. -/
def ofName? (text : String) : Option SpatialOp :=
  all.find? fun op => Text.sameLetters op.name text

/-- The pattern that a predicate looks for. A bounding box is compared like any other area. -/
def test (op : SpatialOp) (m : Planar.Matrix) : Bool :=
  match op with
  | bbox => m.isIntersects
  | contains => m.isContains
  | crosses => m.isCrosses
  | disjoint => m.isDisjoint
  | equals => m.isEquals
  | intersects => m.isIntersects
  | overlaps => m.isOverlaps
  | touches => m.isTouches
  | within => m.isWithin

/-- Whether the predicate holds between two geometries. -/
def holds [Relate] (op : SpatialOp) (left right : Geometry) : Bool :=
  left.isFinite && right.isFinite && op.test (Relate.relate left right)

end SpatialOp

end GeoFilter
