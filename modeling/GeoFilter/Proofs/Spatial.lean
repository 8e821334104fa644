import GeoFilter.Proofs.Complement
import GeoFilter.Proofs.Geometry.ReadBack
import GeoFilter.Proofs.Planar.Pattern

set_option autoImplicit false

/-! # Spatial predicates

A spatial predicate asks for two geometries without infinite coordinates whose matrix fits one of
its patterns. The geometry of an operand is the default geometry of the record, a geometry that
is its value, or the one that a text is read as. All that is asked of the operation that relates
geometries is that the matrix of two geometries is the transpose of the one the other way round. -/

namespace GeoFilter

namespace Expression

/-- The geometry that an expression stands for on a record. -/
inductive Locates (record : RecordView) : Expression → Geometry → Prop where
  | byDefault {g : Geometry} (h : record.defaultGeometry = some g) :
      Locates record .defaultGeometry g
  | stored {e : Expression} {g : Geometry} (h : e.evaluate record = .geometry g) :
      Locates record e g
  | written {e : Expression} {g : Geometry} {text : String} (h : e.evaluate record = .text text)
      (hRead : Geometry.ofWkt text = .ok g) : Locates record e g

variable {record : RecordView} {e : Expression} {g : Geometry}

theorem locates_iff : e.Locates record g ↔ e.evaluateGeometry record = some g := by
  constructor
  · rintro (h | h | ⟨h, hRead⟩)
    · exact h
    · rw [evaluateGeometry_eq, h, Value.asGeometry]
    · rw [evaluateGeometry_eq, h, Value.asGeometry, hRead]
      rfl
  · intro h
    rw [evaluateGeometry_eq] at h
    cases hValue : e.evaluate record with
    | geometry g' =>
      rw [hValue, Value.asGeometry, Option.some.injEq] at h
      exact .stored (h ▸ hValue)
    | text text =>
      rw [hValue, Value.asGeometry] at h
      cases hRead : Geometry.ofWkt text with
      | ok g' =>
        rw [hRead, Except.toOption, Option.some.injEq] at h
        exact .written hValue (h ▸ hRead)
      | error => simp [hRead, Except.toOption] at h
    | absent | null | number | bool => simp [hValue, Value.asGeometry] at h

/-- An expression stands for a geometry without infinite coordinates. -/
def Placed (record : RecordView) (e : Expression) : Prop :=
  ∃ g, e.Locates record g ∧ g.Finite

end Expression

namespace Filter

open SpatialOp

section

variable [Relate] {record : RecordView} {l r : Expression}

theorem accepts_spatial (op : SpatialOp) :
    (spatial op l r).accepts record = true ↔
      ∃ g h, l.Locates record g ∧ r.Locates record h ∧ op.holds g h = true := by
  simp only [Expression.locates_iff, accepts]
  cases l.evaluateGeometry record with
  | none => simp
  | some g => cases r.evaluateGeometry record <;> simp

/-- Exchanging the sides turns the predicate over. -/
theorem accepts_converse (hTransposes : Relate.Transposes) (op : SpatialOp) :
    (spatial op.converse l r).accepts record = (spatial op r l).accepts record := by
  simp only [accepts]
  cases l.evaluateGeometry record with
  | none => cases r.evaluateGeometry record <;> rfl
  | some g =>
    cases r.evaluateGeometry record with
    | none => rfl
    | some h => exact op.holds_converse hTransposes g h

/-- No predicate accepts a record without two finite geometries. -/
theorem placed_of_accepts {op : SpatialOp} (h : (spatial op l r).accepts record = true) :
    l.Placed record ∧ r.Placed record := by
  obtain ⟨g, g', hg, hg', hHolds⟩ := (accepts_spatial op).1 h
  simp only [holds, Bool.and_eq_true, Geometry.isFinite_iff] at hHolds
  exact ⟨⟨g, hg, hHolds.1.1⟩, ⟨g', hg', hHolds.1.2⟩⟩

/-- Two finite geometries are apart or meet. -/
theorem opposed_disjoint :
    Opposed record (spatial disjoint l r) (spatial intersects l r)
      (l.Placed record ∧ r.Placed record) := by
  constructor
  · rintro ⟨hDisjoint, hIntersects⟩
    obtain ⟨g, h, hg, hh, hHolds⟩ := (accepts_spatial intersects).1 hIntersects
    rw [Expression.locates_iff] at hg hh
    simp only [accepts, hg, hh] at hDisjoint
    simp [holds_intersects, hDisjoint] at hHolds
  · constructor
    · rintro (h | h)
      · exact placed_of_accepts h
      · exact placed_of_accepts h
    · rintro ⟨⟨g, hg, hFinite⟩, ⟨h, hh, hFinite'⟩⟩
      rw [Expression.locates_iff] at hg hh
      rw [← Geometry.isFinite_iff] at hFinite hFinite'
      simp only [accepts, hg, hh, holds_intersects, hFinite, hFinite', Bool.true_and]
      cases disjoint.holds g h <;> simp

/-- How the spatial predicates on two expressions relate to one another on a record. -/
structure SpatialAlgebra (record : RecordView) (l r : Expression) : Prop where
  /-- A predicate asks for finite geometries on both sides and for one of its patterns. -/
  accepts_iff : ∀ op, (spatial op l r).accepts record = true ↔
    ∃ g h, l.Locates record g ∧ r.Locates record h ∧ g.Finite ∧ h.Finite ∧
      let m := Relate.relate g h
      ∃ pattern ∈ op.patterns m.leftDimension m.rightDimension, m.Fits pattern
  within_eq : (spatial within l r).accepts record = (spatial contains r l).accepts record
  symmetric : ∀ op ∈ [equals, disjoint, intersects, bbox, touches, crosses, overlaps],
    (spatial op l r).accepts record = (spatial op r l).accepts record
  bbox_eq : (spatial bbox l r).accepts record = (spatial intersects l r).accepts record
  disjoint_or_intersects : Opposed record (spatial disjoint l r) (spatial intersects l r)
    (l.Placed record ∧ r.Placed record)
  rejects : ¬ (l.Placed record ∧ r.Placed record) →
    ∀ op, (spatial op l r).accepts record = false

/-- Whatever operation relates geometries, if it gives the transpose for the other way round, the
    predicates relate to one another as they should, for all expressions on all records. -/
theorem spatial_algebra (hTransposes : Relate.Transposes) (record : RecordView)
    (l r : Expression) : SpatialAlgebra record l r where
  accepts_iff := by
    intro op
    simp only [accepts_spatial, holds, Bool.and_eq_true, Geometry.isFinite_iff, op.test_iff,
      and_assoc]
  within_eq := accepts_converse hTransposes contains
  symmetric := by
    intro op hMem
    have hConverse : op.converse = op := by
      simp only [List.mem_cons, List.not_mem_nil, or_false] at hMem
      rcases hMem with rfl | rfl | rfl | rfl | rfl | rfl | rfl <;> rfl
    rw [← accepts_converse hTransposes op, hConverse]
  bbox_eq := rfl
  disjoint_or_intersects := opposed_disjoint
  rejects := by
    intro hNone op
    exact Bool.eq_false_iff.2 fun h => hNone (placed_of_accepts h)

end

/-- A square that is written as text and the default geometry of a record, a point inside it. -/
theorem spatial_algebra_square :
    let square : Expression := .literal (.text "POLYGON((0 0,10 0,10 10,0 10,0 0))")
    let record : RecordView := ⟨fun _ => .absent, some (.point ⟨5, 5⟩), none⟩
    Relate.Transposes ∧ SpatialAlgebra record .defaultGeometry square ∧
      (spatial within .defaultGeometry square).accepts record = true ∧
      (spatial contains square .defaultGeometry).accepts record = true ∧
      (spatial disjoint square .defaultGeometry).accepts record = false := by
  intro square record
  have hAlgebra := spatial_algebra Relate.exact_transposes record .defaultGeometry square
  have hContains : (spatial contains square .defaultGeometry).accepts record = true := by
    decide +kernel
  have hIntersects : (spatial intersects .defaultGeometry square).accepts record = true := by
    decide +kernel
  have hDisjoint : (spatial disjoint .defaultGeometry square).accepts record = false :=
    Bool.eq_false_iff.2 fun h => hAlgebra.disjoint_or_intersects.not_both ⟨h, hIntersects⟩
  have hSwapped := hAlgebra.symmetric disjoint (by decide)
  exact ⟨Relate.exact_transposes, hAlgebra, hAlgebra.within_eq.trans hContains, hContains,
    hSwapped.symm.trans hDisjoint⟩

end Filter

end GeoFilter
