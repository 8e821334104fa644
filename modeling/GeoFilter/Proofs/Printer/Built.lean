import GeoFilter.Proofs.Printer.Printable
import GeoFilter.Proofs.WellFormed

set_option autoImplicit false

/-! # What the parser builds is printable

Of a well-formed filter only the geometries can keep it from being printed and read again: a
geometry may be written in a way that is not read, or is read as another one. -/

namespace GeoFilter

/-- The geometries read back. -/
def AllReadBack (gs : List Geometry) : Prop := ∀ g ∈ gs, g.ReadsBack

theorem AllReadBack.left {gs gs' : List Geometry} (h : AllReadBack (gs ++ gs')) :
    AllReadBack gs := fun g hMem => h g (List.mem_append_left gs' hMem)

theorem AllReadBack.right {gs gs' : List Geometry} (h : AllReadBack (gs ++ gs')) :
    AllReadBack gs' := fun g hMem => h g (List.mem_append_right gs hMem)

theorem AllReadBack.of_flatMap {α : Type} {geometries : α → List Geometry} {as : List α}
    (h : AllReadBack (as.flatMap geometries)) : ∀ a ∈ as, AllReadBack (geometries a) :=
  fun _ ha g hMem => h g (List.mem_flatMap_of_mem ha hMem)

/-! ## Expressions -/

namespace Expression

theorem WellFormed.printable {e : Expression} (h : e.WellFormed)
    (hGeometries : AllReadBack e.geometries) : e.Printable := by
  induction e with
  | literal value =>
    cases value with
    | geometry g => exact hGeometries g List.mem_cons_self
    | absent | null | number | text | bool => exact h
  | attr | defaultGeometry => trivial
  | arithmetic op left right ihLeft ihRight =>
    exact ⟨ihLeft h.1 hGeometries.left, ihRight h.2 hGeometries.right⟩

/-- A rectangle is not a well-formed literal. -/
theorem WellFormed.ne_rect {e : Expression} (h : e.WellFormed) (low high : Coord) :
    e ≠ .literal (.geometry (.rect low high)) := by
  rintro rfl
  exact h.2

end Expression

/-! ## Filters -/

theorem AllReadBack.of_operands {fs : List Filter} (h : AllReadBack (Filter.geometriesOfList fs)) :
    ∀ f ∈ fs, AllReadBack f.geometries := by
  induction fs with
  | nil => exact fun f hMem => nomatch hMem
  | cons g fs ih =>
    intro f hMem
    rcases List.mem_cons.1 hMem with rfl | hMem
    · exact h.left
    · exact ih h.right f hMem

namespace Filter

/-- A well-formed filter is printable if its geometries read back. -/
theorem WellFormed.printable {f : Filter} (h : f.WellFormed)
    (hGeometries : AllReadBack f.geometries) : f.Printable := by
  induction h with
  | everything => exact .everything
  | nothing => exact .nothing
  | comparison op hLeft hRight =>
    exact .comparison op (hLeft.printable hGeometries.left) (hRight.printable hGeometries.right)
  | conjunction hLength _ ih =>
    have hOperands := AllReadBack.of_operands hGeometries
    exact .conjunction hLength fun f hMem => ih f hMem (hOperands f hMem)
  | disjunction hLength _ ih =>
    have hOperands := AllReadBack.of_operands hGeometries
    exact .disjunction hLength fun f hMem => ih f hMem (hOperands f hMem)
  | negation _ ih => exact .negation (ih hGeometries.left)
  | oneOf negated h hNe hCandidates =>
    have hEach := hGeometries.right.of_flatMap
    exact .oneOf negated (h.printable hGeometries.left) hNe
      fun c hMem => (hCandidates c hMem).printable (hEach c hMem)
  | like negated h hPattern => exact .like negated (h.printable hGeometries) hPattern
  | isNull name negated => exact .isNull name negated
  | @spatial left right op hLeft hRight =>
    have hArguments : AllReadBack ([left, right].flatMap Expression.geometries) := by
      rw [← spatialArguments_of_ne_rect op left hRight.ne_rect]
      exact hGeometries
    have hEach := hArguments.of_flatMap
    exact .spatial op (hLeft.printable (hEach left (by simp)))
      (hRight.printable (hEach right (by simp)))
  | @box e low high h hLow hHigh hx hy =>
    -- The corners are printed as numbers, so only the first argument can hold a geometry.
    have hFirst : AllReadBack e.geometries := AllReadBack.left hGeometries
    rw [← Geometry.ofCorners_of_le hLow hHigh hx hy]
    exact .box (h.printable hFirst) hHigh hLow
  | @ids candidates hNe hCandidates =>
    have hEach := hGeometries.of_flatMap
    exact .ids hNe fun v hMem =>
      Expression.WellFormed.printable (e := .literal v) (hCandidates v hMem) (hEach v hMem)

end Filter

end GeoFilter
