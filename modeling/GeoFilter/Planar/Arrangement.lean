import GeoFilter.Planar.Figure
import GeoFilter.Sorted

set_option autoImplicit false

/-! # Arrangements

The segments of two figures cut each other, and the plane, into finitely many cells: vertices,
edges between neighbouring vertices, and faces. Each of the two figures holds every cell wholly
in its interior, on its boundary or in its exterior, so that one sample for each cell tells all
that the two figures have in common. An edge is sampled at its midpoint, and the faces beside an
edge by looking from its midpoint to the left and to the right. -/

namespace GeoFilter.Planar

/-- The vertices and edges of an arrangement. -/
structure Arrangement where
  vertices : List Point
  edges : List Segment

/-- The points that cut a segment, in order: where it meets any of the segments, and the single
    points that lie on it. -/
def cuts (segments : List Segment) (points : List Point) (s : Segment) : List Point :=
  sorted Point.le (segments.flatMap s.meet ++ points.filter s.contains)

namespace Arrangement

/-- The arrangement of segments and single points. -/
def ofParts (segments : List Segment) (points : List Point) : Arrangement :=
  let cut := segments.map (cuts segments points)
  ⟨points ++ cut.flatten, cut.flatMap segmentsOf⟩

/-- The arrangement of two figures. Their parts are sorted, so that it does not matter which
    figure comes first. -/
def ofFigures (f g : Figure) : Arrangement :=
  ofParts (sorted Segment.le (f.segments ++ g.segments)) (sorted Point.le (f.marks ++ g.marks))

end Arrangement

/-- What two figures make of one cell, and the dimension of the cell. -/
structure Cell where
  left : Location
  right : Location
  dimension : Nat
  deriving DecidableEq

namespace Arrangement

/-- What two figures make of the cells of an arrangement. The unbounded face is in the exterior
    of both. -/
def cells (a : Arrangement) (f g : Figure) : List Cell :=
  ⟨.exterior, .exterior, 2⟩ ::
    (a.vertices.map (fun p => ⟨f.locate (g.seamAt p) p, g.locate (f.seamAt p) p, 0⟩) ++
      a.edges.flatMap fun edge =>
        let middle := edge.start.midpoint edge.finish
        let side := edge.direction.turned
        [⟨f.locate .interior middle, g.locate .interior middle, 1⟩,
          ⟨f.locateBeside middle side, g.locateBeside middle side, 2⟩,
          ⟨f.locateBeside middle side.neg, g.locateBeside middle side.neg, 2⟩])

end Arrangement

end GeoFilter.Planar
