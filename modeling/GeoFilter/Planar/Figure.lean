import GeoFilter.Planar.Segment

set_option autoImplicit false

/-! # Figures

A geometry as a set of points of the plane: single points, polylines, and areas bounded by
rings. Every point of the plane is in the interior, on the boundary, or in the exterior of a
figure. The boundary of an area is its rings; the boundary of polylines is the points at which
an odd number of them end, so that a closed line has none; single points have no boundary.

Rings are counted in the same way. Where the rings of an even number of areas lie on each other is
a seam between them and no boundary, up to the points at which rings have corners or cross. -/

namespace GeoFilter

namespace Planar

/-- A set of points of the plane. A polyline has at least two different points; an area is what
    an odd number of its rings surround. -/
structure Figure where
  points : List Point
  lines : List (List Point)
  areas : List (List (List Point))

/-- Where a point of the plane is, with respect to a figure. -/
inductive Location where
  | interior
  | boundary
  | exterior
  deriving DecidableEq, Repr

namespace Figure

/-- The figure without parts. -/
def empty : Figure := ⟨[], [], []⟩

/-- Two figures taken together. -/
def union (f g : Figure) : Figure :=
  ⟨f.points ++ g.points, f.lines ++ g.lines, f.areas ++ g.areas⟩

/-- A polyline; one that does not leave its first point is that point. -/
def ofLine (path : List Point) : Figure :=
  match path with
  | [] => empty
  | p :: rest => if rest.all (· = p) then ⟨[p], [], []⟩ else ⟨[], [path], []⟩

/-- The area of one polygon. -/
def ofRings (rings : List (List Point)) : Figure :=
  if rings.all List.isEmpty then empty else ⟨[], [], [rings]⟩

/-- The segments of all lines and rings. -/
def segments (f : Figure) : List Segment :=
  f.lines.flatMap segmentsOf ++ f.areas.flatten.flatMap segmentsOf

/-- The segments of the rings of one area. -/
def areaSegments (rings : List (List Point)) : List Segment := rings.flatMap segmentsOf

/-- The first and the last point of every polyline. -/
def lineEnds (f : Figure) : List Point :=
  f.lines.flatMap fun path => path.head?.toList ++ path.getLast?.toList

/-- The points that a figure is made from, other than those of its lines. -/
def marks (f : Figure) : List Point := f.points ++ f.areas.flatten.flatten

/-- Whether a point lies on one of the rings of an area. A ring that does not leave its first
    point is that point. -/
def onRings (rings : List (List Point)) (p : Point) : Bool :=
  rings.any fun ring => ring.contains p || (segmentsOf ring).any (·.contains p)

/-- Whether rings have a corner at a point, or cross there. -/
def isKnot (f : Figure) (p : Point) : Bool :=
  let rings := f.areas.flatten
  let segments := (areaSegments rings).filter (·.contains p)
  rings.any (·.contains p) ||
    segments.any fun s => segments.any fun t => s.direction.cross t.direction != 0

/-- Whether a point lies on the boundary of the areas. -/
def onBoundary (f : Figure) (p : Point) : Bool :=
  f.areas.countP (onRings · p) % 2 == 1 || f.isKnot p

/-- Whether a point lies on a ring of an area. -/
def onSomeRing (f : Figure) (p : Point) : Bool := f.areas.any (onRings · p)

/-- Whether a point lies inside an area and on none of its rings. -/
def insideArea (f : Figure) (p : Point) : Bool :=
  f.areas.any fun rings => !onRings rings p && crossesOddly p ⟨1, 0⟩ (areaSegments rings)

/-- Whether a point lies on a polyline. -/
def onLine (f : Figure) (p : Point) : Bool :=
  f.lines.any fun path => (segmentsOf path).any (·.contains p)

/-- Whether an odd number of polylines end at a point. -/
def endsOddly (f : Figure) (p : Point) : Bool := f.lineEnds.count p % 2 == 1

/-- Where a point is, given where the points of a seam are. -/
def locate (f : Figure) (seam : Location) (p : Point) : Location :=
  if f.onBoundary p then .boundary
  else if f.insideArea p then .interior
  else if f.onLine p then (if f.endsOddly p then .boundary else .interior)
  else if f.points.contains p then .interior
  else if f.onSomeRing p then seam
  else .exterior

/-- Where a seam of another figure is at a point: in the interior for lines and rings that go
    through the point, and in the exterior for a single point. -/
def seamAt (f : Figure) (p : Point) : Location :=
  if f.segments.any (·.contains p) then .interior else .exterior

/-- Where the points close to `p` are, in a direction that leads off all segments at `p`. -/
def locateBeside (f : Figure) (p direction : Point) : Location :=
  if f.areas.any fun rings => crossesOddly p direction (areaSegments rings) then .interior
  else .exterior

end Figure

end Planar

/-! ## The figure of a geometry -/

namespace Geometry

open Planar

/-- The points of a path. -/
def pathPoints (path : Path) : List Point := path.map Point.ofCoord

/-- The figure of a polygon. -/
def polygonFigure (shape : Polygon) : Figure :=
  .ofRings (pathPoints shape.exterior :: shape.interiors.map pathPoints)

/-- Several figures taken together. -/
def together (figures : List Figure) : Figure := figures.foldr Figure.union .empty

mutual

/-- The set of points of a geometry. -/
def figure : Geometry → Figure
  | point position => ⟨[.ofCoord position], [], []⟩
  | line start finish => .ofLine [.ofCoord start, .ofCoord finish]
  | lineString path => .ofLine (pathPoints path)
  | polygon shape => polygonFigure shape
  | multiPoint positions => ⟨positions.map .ofCoord, [], []⟩
  | multiLineString paths => together (paths.map fun path => .ofLine (pathPoints path))
  | multiPolygon shapes => together (shapes.map polygonFigure)
  | collection members => figureOfList members
  | rect low high =>
    .ofRings [pathPoints [low, ⟨high.x, low.y⟩, high, ⟨low.x, high.y⟩, low]]
  | triangle a b c => .ofRings [pathPoints [a, b, c, a]]

/-- The set of points of the members of a collection. -/
def figureOfList : List Geometry → Figure
  | [] => .empty
  | member :: rest => member.figure.union (figureOfList rest)

end

end Geometry

end GeoFilter
