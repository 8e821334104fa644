import GeoFilter.Proofs.Planar.Transposed
import GeoFilter.SpatialOp

set_option autoImplicit false

/-! # Patterns of the matrix

The named relations are defined by patterns of the nine-intersection matrix: one letter for each
entry, going through interior, boundary and exterior of the left figure, and for each of these
through those of the right one. The tests on the matrix are these patterns, and turning the
matrix over turns them over. So where an operation that relates geometries gives the transpose for
the other way round, each predicate has a converse. -/

namespace GeoFilter

namespace Planar.Matrix

/-- The nine entries of a matrix, row by row. -/
def entries (m : Matrix) : List (Option Nat) :=
  [.interior, .boundary, .exterior].flatMap fun left =>
    [.interior, .boundary, .exterior].map fun right => m left right

/-- Whether a letter of a pattern allows for an entry: any, some points in common, none, or points
    of one dimension. -/
def allows : Char → Option Nat → Bool
  | '*', _ => true
  | 'T', d => d.isSome
  | 'F', d => d.isNone
  | '0', d => d == some 0
  | '1', d => d == some 1
  | '2', d => d == some 2
  | _, _ => false

/-- Every entry is one that the pattern allows for. -/
def Fits (m : Matrix) (pattern : String) : Prop :=
  List.Forall₂ (fun letter d => allows letter d) pattern.toList m.entries

variable {m : Matrix}

theorem isDisjoint_iff : m.isDisjoint ↔ m.Fits "FF*FF****" := by
  simp [Fits, entries, allows, isDisjoint, meets, and_assoc]

theorem isIntersects_iff :
    m.isIntersects ↔
      m.Fits "T********" ∨ m.Fits "*T*******" ∨ m.Fits "***T*****" ∨ m.Fits "****T****" := by
  simp [Fits, entries, allows, isIntersects, isDisjoint, meets, or_assoc,
    Option.isSome_iff_ne_none]

theorem isWithin_iff : m.isWithin ↔ m.Fits "T*F**F***" := by
  simp [Fits, entries, allows, isWithin, meets, and_assoc]

theorem isContains_iff : m.isContains ↔ m.Fits "T*****FF*" := by
  simp [Fits, entries, allows, isContains, meets, and_assoc]

theorem isTouches_iff :
    m.isTouches ↔ m.Fits "FT*******" ∨ m.Fits "F**T*****" ∨ m.Fits "F***T****" := by
  simp [Fits, entries, allows, isTouches, meets, and_or_left, or_assoc]

theorem isEquals_iff : m.isEquals ↔ m.Fits "T*F**FFF*" ∨ m.Fits "FFFFFFFF*" := by
  have hBoth : m.isWithin ∧ m.isContains ↔ m.Fits "T*F**FFF*" := by
    simp [Fits, entries, allows, isWithin, isContains, meets, and_assoc, and_left_comm]
  rw [isEquals, Bool.or_eq_true, Bool.and_eq_true m.isWithin, hBoth, or_comm]
  simp [Fits, entries, allows, meets, and_assoc]

/-- Interiors meet only in figures that have an interior. -/
theorem dimensions_isSome (h : m.meets .interior .interior = true) :
    ∃ left right, m.leftDimension = some left ∧ m.rightDimension = some right := by
  obtain ⟨d, hMeet⟩ := Option.isSome_iff_exists.1 h
  rw [leftDimension, rightDimension, hMeet]
  generalize greater (m .interior .boundary) (m .interior .exterior) = left,
    greater (m .boundary .interior) (m .exterior .interior) = right
  cases left <;> cases right <;> simp [greater]

/-- The figure of the smaller dimension leaves the other one, or two lines meet in single points;
    a figure without an interior crosses none. -/
def crossing : Option Nat → Option Nat → List String
  | some left, some right =>
    if left < right then ["T*T******"]
    else if right < left then ["T*****T**"]
    else if left = 1 then ["0********"]
    else []
  | _, _ => []

/-- Both figures are of one dimension, and leave each other; two lines also share a line. -/
def overlapping : Option Nat → Option Nat → List String
  | some left, some right =>
    if left = right then [if left = 1 then "1*T***T**" else "T*T***T**"] else []
  | _, _ => []

theorem isCrosses_iff :
    m.isCrosses ↔ ∃ pattern ∈ crossing m.leftDimension m.rightDimension, m.Fits pattern := by
  -- without an interior in one of the figures, the interiors do not meet
  have hInterior := m.dimensions_isSome
  rw [isCrosses]
  cases hLeft : m.leftDimension with
  | none =>
    simp only [hLeft, reduceCtorEq, false_and, exists_false, imp_false] at hInterior
    cases m.rightDimension <;> simp [crossing, hInterior]
  | some left =>
    cases hRight : m.rightDimension with
    | none =>
      simp only [hRight, reduceCtorEq, and_false, exists_false, imp_false] at hInterior
      simp [crossing, hInterior]
    | some right =>
      simp only [crossing]
      split
      · simp [Fits, entries, allows, meets]
      · split
        · simp [Fits, entries, allows, meets]
        · by_cases hLines : left = 1
          · simp [hLines, Fits, entries, allows]
          · simp [hLines]

theorem isOverlaps_iff :
    m.isOverlaps ↔ ∃ pattern ∈ overlapping m.leftDimension m.rightDimension, m.Fits pattern := by
  rw [isOverlaps]
  cases hLeft : m.leftDimension with
  | none => simp [overlapping]
  | some left =>
    cases hRight : m.rightDimension with
    | none => simp [overlapping]
    | some right =>
      by_cases hSame : left = right
      · by_cases hLines : left = 1
        · simp [overlapping, ← hSame, hLines, Fits, entries, allows, meets, and_assoc]
        · simp [overlapping, ← hSame, hLines, Fits, entries, allows, meets, and_assoc]
      · simp [overlapping, hSame]

/-! ## The other way round -/

theorem meets_transpose (left right : Location) :
    m.transpose.meets left right = m.meets right left := rfl

theorem leftDimension_transpose : m.transpose.leftDimension = m.rightDimension := rfl

theorem rightDimension_transpose : m.transpose.rightDimension = m.leftDimension := rfl

theorem isDisjoint_transpose : m.transpose.isDisjoint = m.isDisjoint := by
  simp only [isDisjoint, meets_transpose]
  ac_rfl

theorem isIntersects_transpose : m.transpose.isIntersects = m.isIntersects :=
  congrArg not isDisjoint_transpose

theorem isWithin_transpose : m.transpose.isWithin = m.isContains := rfl

theorem isContains_transpose : m.transpose.isContains = m.isWithin := rfl

theorem isTouches_transpose : m.transpose.isTouches = m.isTouches := by
  simp only [isTouches, meets_transpose]
  ac_rfl

theorem isEquals_transpose : m.transpose.isEquals = m.isEquals := by
  simp only [isEquals, isWithin_transpose, isContains_transpose, meets_transpose]
  ac_rfl

theorem isCrosses_transpose : m.transpose.isCrosses = m.isCrosses := by
  rw [isCrosses, isCrosses, leftDimension_transpose, rightDimension_transpose]
  simp only [meets_transpose]
  cases m.leftDimension with
  | none => cases m.rightDimension <;> rfl
  | some left =>
    cases m.rightDimension with
    | none => rfl
    | some right =>
      rcases Nat.lt_trichotomy left right with hLess | rfl | hGreater
      · simp [hLess, hLess.le.not_gt]
      · simp [transpose]
      · simp [hGreater, hGreater.le.not_gt]

theorem isOverlaps_transpose : m.transpose.isOverlaps = m.isOverlaps := by
  rw [isOverlaps, isOverlaps, leftDimension_transpose, rightDimension_transpose]
  simp only [meets_transpose]
  cases m.leftDimension with
  | none => cases m.rightDimension <;> rfl
  | some left =>
    cases m.rightDimension with
    | none => rfl
    | some right =>
      by_cases hSame : left = right
      · subst hSame
        simp only [transpose]
        ac_rfl
      · simp [beq_false_of_ne hSame, beq_false_of_ne (Ne.symm hSame)]

end Planar.Matrix

namespace Relate

/-- The matrix of two geometries the other way round is the transpose. -/
def Transposes [Relate] : Prop := ∀ g h : Geometry, relate h g = (relate g h).transpose

theorem exact_transposes : @Transposes exact := fun g h =>
  Planar.Matrix.ofFigures_transpose g.figure h.figure

end Relate

namespace SpatialOp

open Planar

/-- The patterns of a predicate, for two figures of given dimensions. -/
def patterns (left right : Option Nat) : SpatialOp → List String
  | bbox => ["T********", "*T*******", "***T*****", "****T****"]
  | contains => ["T*****FF*"]
  | crosses => Matrix.crossing left right
  | disjoint => ["FF*FF****"]
  | equals => ["T*F**FFF*", "FFFFFFFF*"]
  | intersects => ["T********", "*T*******", "***T*****", "****T****"]
  | overlaps => Matrix.overlapping left right
  | touches => ["FT*******", "F**T*****", "F***T****"]
  | within => ["T*F**F***"]

variable (op : SpatialOp) (m : Matrix)

/-- A predicate tests for its patterns. -/
theorem test_iff :
    op.test m ↔ ∃ pattern ∈ op.patterns m.leftDimension m.rightDimension, m.Fits pattern := by
  cases op with
  | bbox => simp [test, patterns, Matrix.isIntersects_iff]
  | contains => simp [test, patterns, Matrix.isContains_iff]
  | crosses => exact Matrix.isCrosses_iff
  | disjoint => simp [test, patterns, Matrix.isDisjoint_iff]
  | equals => simp [test, patterns, Matrix.isEquals_iff]
  | intersects => simp [test, patterns, Matrix.isIntersects_iff]
  | overlaps => exact Matrix.isOverlaps_iff
  | touches => simp [test, patterns, Matrix.isTouches_iff]
  | within => simp [test, patterns, Matrix.isWithin_iff]

/-- The predicate that says the same with the sides exchanged. -/
def converse : SpatialOp → SpatialOp
  | contains => within
  | within => contains
  | op => op

theorem test_transpose : op.test m.transpose = op.converse.test m := by
  cases op with
  | bbox => exact Matrix.isIntersects_transpose
  | contains => rfl
  | crosses => exact Matrix.isCrosses_transpose
  | disjoint => exact Matrix.isDisjoint_transpose
  | equals => exact Matrix.isEquals_transpose
  | intersects => exact Matrix.isIntersects_transpose
  | overlaps => exact Matrix.isOverlaps_transpose
  | touches => exact Matrix.isTouches_transpose
  | within => rfl

variable [Relate]

/-- The sides of a predicate change places when it is turned over. -/
theorem holds_converse (hTransposes : Relate.Transposes) (g h : Geometry) :
    op.converse.holds g h = op.holds h g := by
  rw [holds, holds, hTransposes g h, test_transpose, Bool.and_comm g.isFinite]

/-- Two finite geometries either meet or are apart. -/
theorem holds_intersects (g h : Geometry) :
    intersects.holds g h = (g.isFinite && h.isFinite && !disjoint.holds g h) := by
  rw [holds, holds, test, test, Matrix.isIntersects]
  cases g.isFinite <;> cases h.isFinite <;> simp

end SpatialOp

end GeoFilter
