import GeoFilter.Geometry.Basic

set_option autoImplicit false

/-! # Points of the rational plane

Doubles are rational numbers, so that whether three points turn left, and where two segments
meet, can be decided without rounding. Points are ordered by their first and then by their
second number; along any line that order runs in one direction. -/

namespace GeoFilter

/-- The rational number that a finite double is; zero for the others. -/
def Number.toRat (x : Float) : Rat :=
  match Number.shape x with
  | .finite negative code =>
    let (num, den) := Number.binary64.quotient code
    mkRat (if negative then -(num : Int) else num) den
  | _ => 0

namespace Planar

/-- A point of the rational plane. -/
structure Point where
  x : Rat
  y : Rat
  deriving DecidableEq

namespace Point

/-- The exact position of a coordinate. -/
def ofCoord (c : Coord) : Point := ⟨Number.toRat c.x, Number.toRat c.y⟩

/-- The vector from `q` to `p`. -/
def sub (p q : Point) : Point := ⟨p.x - q.x, p.y - q.y⟩

/-- The cross product of two points seen as vectors: positive when the second one lies to the
    left of the first. -/
def cross (p q : Point) : Rat := p.x * q.y - p.y * q.x

/-- The point halfway between two points. -/
def midpoint (p q : Point) : Point := ⟨(p.x + q.x) / 2, (p.y + q.y) / 2⟩

/-- The vector turned to its left. -/
def turned (p : Point) : Point := ⟨-p.y, p.x⟩

/-- The point on the other side of the centre. -/
def neg (p : Point) : Point := ⟨-p.x, -p.y⟩

/-- The order by the first and then by the second number. -/
def le (p q : Point) : Bool := p.x < q.x || (p.x == q.x && p.y ≤ q.y)

end Point

end Planar

end GeoFilter
