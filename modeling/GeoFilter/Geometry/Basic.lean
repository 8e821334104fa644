import GeoFilter.Number.Binary

set_option autoImplicit false

/-! # Planar geometries

The geometries that records hold and filters compare: points, lines, polygons, collections of
these, and the three fixed shapes segment, rectangle and triangle. A list of coordinates is kept
as given; nothing is simplified and nothing is checked for validity.

Equality of geometries is structural, with the equality of numbers on coordinates: NaN differs
from itself and the two zeros are equal. -/

namespace GeoFilter

/-- A position in the plane. -/
structure Coord where
  x : Float
  y : Float

namespace Coord

/-- Both numbers agree. -/
def same (a b : Coord) : Bool := a.x == b.x && a.y == b.y

/-- Neither number is NaN or infinite. -/
def isFinite (c : Coord) : Bool := c.x.isFinite && c.y.isFinite

end Coord

/-- A line string or ring: its vertices in order. -/
abbrev Path := List Coord

/-- A polygon: its outer ring and its holes. A polygon whose outer ring is empty may still
    carry inner rings. -/
structure Polygon where
  exterior : Path
  interiors : List Path

/-- A geometry. -/
inductive Geometry where
  | point (position : Coord)
  | line (start finish : Coord)
  | lineString (path : Path)
  | polygon (shape : Polygon)
  | multiPoint (positions : List Coord)
  | multiLineString (paths : List Path)
  | multiPolygon (shapes : List Polygon)
  | collection (members : List Geometry)
  | rect (low high : Coord)
  | triangle (a b c : Coord)

/-! ## Building shapes -/

namespace Path

/-- The path with its first vertex repeated at the end, unless it ends there already. -/
def closed : Path → Path
  | [] => []
  | first :: rest =>
    if first.same ((first :: rest).getLastD first) then first :: rest
    else first :: (rest ++ [first])

end Path

namespace Polygon

/-- The polygon whose first ring is the outer one; open rings are closed. -/
def ofRings : List Path → Polygon
  | [] => ⟨[], []⟩
  | exterior :: interiors => ⟨exterior.closed, interiors.map Path.closed⟩

end Polygon

namespace Geometry

/-- The rectangle with two opposite corners, stored as its low and its high corner. -/
def ofCorners (a b : Coord) : Geometry :=
  let (lowX, highX) := if a.x < b.x then (a.x, b.x) else (b.x, a.x)
  let (lowY, highY) := if a.y < b.y then (a.y, b.y) else (b.y, a.y)
  .rect ⟨lowX, lowY⟩ ⟨highX, highY⟩

/-- The triangle with three corners; corners given clockwise are stored in reverse order. -/
def ofVertices (a b c : Coord) : Geometry :=
  if (b.x - a.x) * (c.y - a.y) - (b.y - a.y) * (c.x - a.x) < 0 then .triangle c b a
  else .triangle a b c

/-! ## Views -/

/-- The word for a geometry's kind. -/
def kind : Geometry → String
  | point _ => "Point"
  | line _ _ => "Line"
  | lineString _ => "LineString"
  | polygon _ => "Polygon"
  | multiPoint _ => "MultiPoint"
  | multiLineString _ => "MultiLineString"
  | multiPolygon _ => "MultiPolygon"
  | collection _ => "GeometryCollection"
  | rect _ _ => "Rect"
  | triangle _ _ _ => "Triangle"

mutual

/-- Every coordinate of a geometry. -/
def coords : Geometry → List Coord
  | point position => [position]
  | line start finish => [start, finish]
  | lineString path => path
  | polygon shape => shape.exterior ++ shape.interiors.flatten
  | multiPoint positions => positions
  | multiLineString paths => paths.flatten
  | multiPolygon shapes => shapes.flatMap fun shape => shape.exterior ++ shape.interiors.flatten
  | collection members => coordsOfList members
  | rect low high => [low, high]
  | triangle a b c => [a, b, c]

/-- Every coordinate of the members of a collection. -/
def coordsOfList : List Geometry → List Coord
  | [] => []
  | member :: rest => member.coords ++ coordsOfList rest

end

/-- No coordinate is NaN or infinite. -/
def isFinite (g : Geometry) : Bool := g.coords.all Coord.isFinite

end Geometry

/-! ## Equality -/

/-- Two lists agree element by element. -/
def sameLists {α : Type} (same : α → α → Bool) : List α → List α → Bool
  | [], [] => true
  | a :: as, b :: bs => same a b && sameLists same as bs
  | _, _ => false

/-- Two paths have the same vertices. -/
def Path.same (p q : Path) : Bool := sameLists Coord.same p q

/-- Two polygons have the same rings. -/
def Polygon.same (p q : Polygon) : Bool :=
  Path.same p.exterior q.exterior && sameLists Path.same p.interiors q.interiors

namespace Geometry

mutual

/-- Two geometries are of one kind and agree in every coordinate. -/
def same : Geometry → Geometry → Bool
  | point p, point q => p.same q
  | line p q, line r s => p.same r && q.same s
  | lineString p, lineString q => Path.same p q
  | polygon p, polygon q => p.same q
  | multiPoint p, multiPoint q => sameLists Coord.same p q
  | multiLineString p, multiLineString q => sameLists Path.same p q
  | multiPolygon p, multiPolygon q => sameLists Polygon.same p q
  | collection p, collection q => sameMembers p q
  | rect p q, rect r s => p.same r && q.same s
  | triangle a b c, triangle d e f => a.same d && b.same e && c.same f
  | _, _ => false

/-- Two collections agree member by member. -/
def sameMembers : List Geometry → List Geometry → Bool
  | [], [] => true
  | a :: as, b :: bs => a.same b && sameMembers as bs
  | _, _ => false

end

end Geometry

end GeoFilter
