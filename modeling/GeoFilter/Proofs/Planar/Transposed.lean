import Mathlib.Data.Prod.Lex
import Mathlib.Algebra.Order.Ring.Rat
import GeoFilter.Planar.Relation

set_option autoImplicit false

/-! # Two figures the other way round

Points and segments are in linear order, so that the parts of two figures are the same once they
are sorted, whichever figure comes first. The figures then cut the plane into the same cells, and
the matrix of the two the other way round is the transpose. -/

namespace GeoFilter.Planar

/-! ## The order of points and segments -/

/-- What is compared by a key in linear order is sorted alike, however it came. -/
theorem sorted_append_comm {α κ : Type} [DecidableEq α] [LinearOrder κ] {le : α → α → Bool}
    {key : α → κ} (hKey : Function.Injective key) (hLe : ∀ a b, le a b ↔ key a ≤ key b)
    (as bs : List α) : sorted le (as ++ bs) = sorted le (bs ++ as) := by
  refine sorted_eq_sorted ?_ ?_ ?_ fun _ => List.perm_append_comm.mem_iff
  · intro a b c hab hbc
    rw [hLe] at *
    exact hab.trans hbc
  · intro a b
    rw [hLe, hLe]
    exact LinearOrder.le_total _ _
  · intro a b hab hba
    rw [hLe] at hab hba
    exact hKey (hab.antisymm hba)

namespace Point

/-- The numbers of a point, in the order in which points are compared by them. -/
def key (p : Point) : ℚ ×ₗ ℚ := toLex (p.x, p.y)

theorem key_injective : Function.Injective key := by
  rintro ⟨x, y⟩ ⟨x', y'⟩ h
  simpa [key] using h

theorem le_iff_key (p q : Point) : p.le q ↔ p.key ≤ q.key := by
  simp [le, key, Prod.Lex.toLex_le_toLex]

end Point

namespace Segment

/-- The ends of a segment, in the order in which segments are compared by them. -/
def key (s : Segment) : (ℚ ×ₗ ℚ) ×ₗ (ℚ ×ₗ ℚ) := toLex (s.start.key, s.finish.key)

theorem key_injective : Function.Injective key := by
  rintro ⟨p, q⟩ ⟨p', q'⟩ h
  simpa [key, Point.key_injective.eq_iff] using h

theorem le_iff_key (s t : Segment) : s.le t ↔ s.key ≤ t.key := by
  rw [le, key, key, Prod.Lex.toLex_le_toLex, Point.key_injective.eq_iff]
  by_cases hStart : s.start = t.start
  · simp [hStart, Point.le_iff_key]
  · have hKey := Point.key_injective.ne hStart
    simp [hStart, Point.le_iff_key, hKey.le_iff_lt]

end Segment

/-! ## The arrangement -/

theorem Arrangement.ofFigures_comm (f g : Figure) : ofFigures f g = ofFigures g f := by
  rw [ofFigures, ofFigures, sorted_append_comm Segment.key_injective Segment.le_iff_key,
    sorted_append_comm Point.key_injective Point.le_iff_key]

/-- What two figures make of one cell, the other way round. -/
def Cell.swap (cell : Cell) : Cell := ⟨cell.right, cell.left, cell.dimension⟩

theorem Arrangement.cells_comm (a : Arrangement) (f g : Figure) :
    a.cells g f = (a.cells f g).map Cell.swap := by
  simp [cells, Cell.swap, List.map_flatMap, Function.comp_def]

/-! ## The matrix -/

namespace Matrix

/-- The matrix of two figures the other way round. -/
def transpose (m : Matrix) : Matrix := fun left right => m right left

theorem ofCells_swap (cells : List Cell) :
    ofCells (cells.map Cell.swap) = (ofCells cells).transpose := by
  funext left right
  simp only [ofCells, transpose, List.foldr_map]
  congr 1
  funext cell d
  exact if_congr and_comm rfl rfl

/-- The matrix of two figures is the transpose of their matrix the other way round. -/
theorem ofFigures_transpose (f g : Figure) : ofFigures g f = (ofFigures f g).transpose := by
  rw [ofFigures, ofFigures, Arrangement.ofFigures_comm, Arrangement.cells_comm, ofCells_swap]

end Matrix

end GeoFilter.Planar
