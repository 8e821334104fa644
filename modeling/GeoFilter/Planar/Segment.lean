import GeoFilter.Planar.Point

set_option autoImplicit false

/-! # Segments

A segment joins two different points. Where two segments meet is a point, or, when they lie on
one line, all of a common segment, of which only the ends are named. -/

namespace GeoFilter.Planar

/-- A segment from one point to another. -/
structure Segment where
  start : Point
  finish : Point
  deriving DecidableEq

namespace Segment

/-- The vector from the first point to the last. -/
def direction (s : Segment) : Point := s.finish.sub s.start

/-- Whether a point lies on a segment, its ends included. -/
def contains (s : Segment) (p : Point) : Bool :=
  s.direction.cross (p.sub s.start) == 0 &&
    ((s.start.le p && p.le s.finish) || (s.finish.le p && p.le s.start))

/-- The points that two segments have in common, or the ends of what they have in common. -/
def meet (s t : Segment) : List Point :=
  let d := s.direction
  let e := t.direction
  let apart := d.cross e
  if apart = 0 then
    [s.start, s.finish, t.start, t.finish].filter fun p => s.contains p && t.contains p
  else
    let gap := t.start.sub s.start
    let u := gap.cross e / apart
    let v := gap.cross d / apart
    if 0 ≤ u && u ≤ 1 && 0 ≤ v && v ≤ 1 then
      [⟨s.start.x + u * d.x, s.start.y + u * d.y⟩]
    else []

/-- The order by the first and then by the last point. -/
def le (s t : Segment) : Bool :=
  if s.start = t.start then s.finish.le t.finish else s.start.le t.start

end Segment

/-- The segments between consecutive points of a path; repeated points make none. -/
def segmentsOf : List Point → List Segment
  | p :: q :: rest => if p = q then segmentsOf (q :: rest) else ⟨p, q⟩ :: segmentsOf (q :: rest)
  | _ => []

/-- Whether the ray from `origin` in direction `d` crosses a segment. A segment that ends on the
    line of the ray counts on one side of it only, so that a ray through a vertex of a ring
    crosses the ring there as often as a ray beside it does, up to an even number. What touches
    the origin itself does not count. -/
def rayCrosses (origin d : Point) (s : Segment) : Bool :=
  let a := d.cross (s.start.sub origin)
  let b := d.cross (s.finish.sub origin)
  if (a ≤ 0 && 0 < b) || (b ≤ 0 && 0 < a) then
    -- the segment meets the line of the ray at parameter `along / d.cross s.direction`
    let along := (s.start.sub origin).cross s.direction
    let turn := d.cross s.direction
    (0 < along && 0 < turn) || (along < 0 && turn < 0)
  else false

/-- Whether the ray from `origin` in direction `d` crosses segments an odd number of times. -/
def crossesOddly (origin d : Point) (segments : List Segment) : Bool :=
  (segments.filter (rayCrosses origin d)).length % 2 == 1

end GeoFilter.Planar
