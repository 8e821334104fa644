import GeoFilter.Planar.Arrangement

set_option autoImplicit false

/-! # How two figures lie

The nine-intersection matrix of two figures: for the interior, boundary and exterior of each,
the dimension of what they have in common. The named relations are patterns of that matrix. -/

namespace GeoFilter.Planar

/-- The nine-intersection matrix: for a location in the left and one in the right figure, the
    dimension of the points at both, if there are any. -/
def Matrix := Location → Location → Option Nat

namespace Matrix

/-- The greater of two dimensions, where nothing is below all. -/
def greater : Option Nat → Option Nat → Option Nat
  | none, d => d
  | d, none => d
  | some m, some n => some (max m n)

/-- The matrix that cells make. -/
def ofCells (cells : List Cell) : Matrix := fun left right =>
  cells.foldr
    (fun cell d => if cell.left = left ∧ cell.right = right then greater (some cell.dimension) d
      else d) none

/-- The matrix of two figures. -/
def ofFigures (f g : Figure) : Matrix :=
  .ofCells ((Arrangement.ofFigures f g).cells f g)

variable (m : Matrix)

/-- Whether the two locations have points in common. -/
def meets (left right : Location) : Bool := (m left right).isSome

/-- The dimension of the left figure, as far as it meets the right one at all. -/
def leftDimension : Option Nat :=
  greater (m .interior .interior) (greater (m .interior .boundary) (m .interior .exterior))

/-- The dimension of the right figure. -/
def rightDimension : Option Nat :=
  greater (m .interior .interior) (greater (m .boundary .interior) (m .exterior .interior))

/-- The figures have no point in common. -/
def isDisjoint : Bool :=
  !m.meets .interior .interior && !m.meets .interior .boundary &&
    !m.meets .boundary .interior && !m.meets .boundary .boundary

/-- The figures have a point in common. -/
def isIntersects : Bool := !m.isDisjoint

/-- The left figure lies in the right one, and their interiors meet. -/
def isWithin : Bool :=
  m.meets .interior .interior && !m.meets .interior .exterior && !m.meets .boundary .exterior

/-- The right figure lies in the left one, and their interiors meet. -/
def isContains : Bool :=
  m.meets .interior .interior && !m.meets .exterior .interior && !m.meets .exterior .boundary

/-- The figures meet, but their interiors do not. -/
def isTouches : Bool :=
  !m.meets .interior .interior &&
    (m.meets .interior .boundary || m.meets .boundary .interior || m.meets .boundary .boundary)

/-- The figures are the same set of points; two empty ones are. -/
def isEquals : Bool :=
  (!m.meets .interior .interior && !m.meets .interior .boundary &&
    !m.meets .interior .exterior && !m.meets .boundary .interior &&
    !m.meets .boundary .boundary && !m.meets .boundary .exterior &&
    !m.meets .exterior .interior && !m.meets .exterior .boundary) ||
  (m.isWithin && m.isContains)

/-- Interiors meet, and the figure of the smaller dimension also leaves the other one; two lines
    cross where they have single points in common. -/
def isCrosses : Bool :=
  match m.leftDimension, m.rightDimension with
  | none, none => false
  | none, some _ => m.meets .interior .interior && m.meets .interior .exterior
  | some _, none => m.meets .interior .interior && m.meets .exterior .interior
  | some a, some b =>
    if a < b then m.meets .interior .interior && m.meets .interior .exterior
    else if b < a then m.meets .interior .interior && m.meets .exterior .interior
    else a == 1 && m .interior .interior == some 0

/-- Figures of one dimension that share a part of that dimension, and each leaves the other. -/
def isOverlaps : Bool :=
  match m.leftDimension, m.rightDimension with
  | some a, some b =>
    a == b && (if a = 1 then m .interior .interior == some 1 else m.meets .interior .interior) &&
      m.meets .interior .exterior && m.meets .exterior .interior
  | _, _ => false

end Matrix

end GeoFilter.Planar
