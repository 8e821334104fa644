import GeoFilter.Proofs.Number.Double
import GeoFilter.Value.Compare
import Mathlib

set_option autoImplicit false

/-! # Comparing two values

Equality and order of two values are told by two functions, and six operators ask them. On any two
values the operators agree with each other in one of three ways: none of them holds; or one of the
values is a geometry, and they are equal or different and have no order; or they have an order, and
exactly one of less, equal and greater holds.

Exchanging the two values turns their order around and does nothing else, and a value is equal to
itself unless it is missing or has NaN in it. -/

namespace GeoFilter

/-! ## Numbers -/

namespace Number

open Float.Model

/-- Numbers have the order of their unpacked values. -/
theorem order_eq_compare (x y : Float) :
    order x y = x.toModel.unpack.compare y.toModel.unpack := by
  have hSwap := compare_map_swap x.toModel.unpack y.toModel.unpack
  simp only [order, lt_iff, beq_iff, hSwap]
  cases x.toModel.unpack.compare y.toModel.unpack with
  | none => simp
  | some o => cases o <;> simp

theorem order_swap (x y : Float) : order y x = (order x y).map Ordering.swap := by
  rw [order_eq_compare, order_eq_compare, compare_map_swap]

/-- Only NaN differs from itself. -/
theorem beq_self (x : Float) : (x == x) = !x.isNaN := by
  rw [Bool.eq_iff_iff, Float.beq_self_iff, Float.isNaN_eq_decide_eq_nan]
  simp

/-- A number is equal to itself or has no order with itself. -/
theorem order_self (x : Float) : order x x = if x.isNaN then none else some .eq := by
  have hSwap := order_swap x x
  have hSelf : order x x = some .eq ↔ x.isNaN = false := by
    rw [order_eq_compare, ← beq_iff, beq_self, Bool.not_eq_true']
  cases hOrder : order x x with
  | none =>
    rw [hOrder] at hSelf
    cases hNaN : x.isNaN with
    | false => exact absurd (hSelf.2 hNaN) (by simp)
    | true => rfl
  | some o =>
    -- An order that is its own reverse is that of equal numbers.
    obtain rfl : o = .eq := by
      rw [hOrder] at hSwap
      cases o <;> simp at hSwap ⊢
    rw [hSelf.1 hOrder]
    rfl

end Number

/-! ## Geometries -/

section

variable {α : Type} {same : α → α → Bool}

theorem sameLists_comm (h : ∀ a b, same a b = same b a) (as bs : List α) :
    sameLists same as bs = sameLists same bs as := by
  induction as generalizing bs with
  | nil => cases bs <;> rfl
  | cons a as ih =>
    cases bs with
    | nil => rfl
    | cons b bs => rw [sameLists, sameLists, h, ih]

theorem sameLists_self (as : List α) : sameLists same as as = as.all fun a => same a a := by
  induction as with
  | nil => rfl
  | cons a as ih => rw [sameLists, List.all_cons, ih]

end

theorem Coord.same_comm (a b : Coord) : a.same b = b.same a := by
  rw [same, same, BEq.comm, BEq.comm (a := a.y)]

theorem Path.same_comm (p q : Path) : Path.same p q = Path.same q p :=
  sameLists_comm Coord.same_comm p q

theorem Polygon.same_comm (p q : Polygon) : p.same q = q.same p := by
  rw [same, same, Path.same_comm, sameLists_comm Path.same_comm]

/-- Whether a number of the position is NaN. -/
def Coord.hasNaN (c : Coord) : Bool := c.x.isNaN || c.y.isNaN

theorem Coord.same_self (c : Coord) : c.same c = !c.hasNaN := by
  rw [same, hasNaN, Number.beq_self, Number.beq_self, Bool.not_or]

theorem Path.same_self (p : Path) : Path.same p p = p.all fun c => c.same c := sameLists_self p

theorem Path.sameLists_self (ps : List Path) :
    sameLists Path.same ps ps = ps.flatten.all fun c => c.same c := by
  rw [GeoFilter.sameLists_self, List.all_flatten]
  exact congrArg ps.all (funext Path.same_self)

theorem Polygon.same_self (p : Polygon) :
    p.same p = (p.exterior ++ p.interiors.flatten).all fun c => c.same c := by
  rw [same, Path.same_self, Path.sameLists_self, List.all_append]

namespace Geometry

mutual

/-- Equality of geometries has no direction. -/
theorem same_comm (g h : Geometry) : g.same h = h.same g := by
  cases g with
  | point | line | rect | triangle => cases h <;> simp only [same, Coord.same_comm]
  | lineString => cases h <;> simp only [same, Path.same_comm]
  | polygon => cases h <;> simp only [same, Polygon.same_comm]
  | multiPoint => cases h <;> simp only [same, sameLists_comm Coord.same_comm]
  | multiLineString => cases h <;> simp only [same, sameLists_comm Path.same_comm]
  | multiPolygon => cases h <;> simp only [same, sameLists_comm Polygon.same_comm]
  | collection members =>
    cases h with
    | collection members' => exact sameMembers_comm members members'
    | _ => rfl

theorem sameMembers_comm (gs hs : List Geometry) : sameMembers gs hs = sameMembers hs gs := by
  cases gs with
  | nil => cases hs <;> rfl
  | cons g gs =>
    cases hs with
    | nil => rfl
    | cons h hs => rw [sameMembers, sameMembers, same_comm g h, sameMembers_comm gs hs]

end

mutual

/-- A geometry is equal to itself if each of its coordinates is. -/
theorem same_self (g : Geometry) : g.same g = g.coords.all fun c => c.same c := by
  cases g with
  | point | line | rect | triangle => simp [same, coords, Bool.and_assoc]
  | lineString path => exact sameLists_self path
  | polygon shape => exact shape.same_self
  | multiPoint positions => exact sameLists_self positions
  | multiLineString paths => exact Path.sameLists_self paths
  | multiPolygon shapes =>
    rw [same, coords, List.all_flatMap, sameLists_self]
    exact congrArg shapes.all (funext Polygon.same_self)
  | collection members => exact sameMembers_self members

theorem sameMembers_self (gs : List Geometry) :
    sameMembers gs gs = (coordsOfList gs).all fun c => c.same c := by
  cases gs with
  | nil => rfl
  | cons g gs =>
    rw [sameMembers, coordsOfList, List.all_append, same_self g, sameMembers_self gs]

end

end Geometry

/-! ## Exchanging two values -/

namespace Value

theorem order_swap (v w : Value) : w.order v = (v.order w).map Ordering.swap := by
  cases v with
  | absent | null => cases w <;> rfl
  | number x =>
    cases w with
    | absent | null | bool | geometry => rfl
    | number y => exact Number.order_swap x y
    | text s => rfl
  | text s =>
    cases w with
    | absent | null | geometry => rfl
    | number x => simp [order, Function.comp_def]
    | text t => exact congrArg some Std.OrientedCmp.eq_swap
    | bool b => simp [order, ← Std.OrientedCmp.eq_swap, Function.comp_def]
  | bool b =>
    cases w with
    | absent | null | number | geometry => rfl
    | text s => simp [order, ← Std.OrientedCmp.eq_swap, Function.comp_def]
    | bool c => exact congrArg some Std.OrientedCmp.eq_swap
  | geometry g => cases w <;> rfl

theorem equal_comm (v w : Value) : v.equal w = w.equal v := by
  -- Equality goes by the order except where a geometry is compared.
  have hOrder : (v.order w).map (· == .eq) = (w.order v).map (· == .eq) := by
    rw [order_swap v w, Option.map_map]
    congr 1
    funext o
    cases o <;> rfl
  cases v with
  | absent | null | number | bool => cases w <;> exact hOrder
  | text s =>
    cases w with
    | geometry g => rfl
    | _ => exact hOrder
  | geometry g =>
    cases w with
    | geometry h => exact congrArg some (g.same_comm h)
    | text s => rfl
    | _ => exact hOrder

/-- Whether the value is NaN or has a coordinate with NaN in it. -/
def hasNaN : Value → Bool
  | number x => x.isNaN
  | geometry g => g.coords.any Coord.hasNaN
  | _ => false

theorem equal_self (v : Value) :
    v.equal v = some true ↔ v.isMissing = false ∧ v.hasNaN = false := by
  cases v with
  | absent | null => simp [equal, order, isMissing, isAbsent, isNull]
  | number x =>
    have hEqual : (number x).equal (number x)
        = (if x.isNaN then none else some Ordering.eq).map (· == .eq) := by
      rw [← Number.order_self]
      rfl
    rw [hEqual, hasNaN]
    cases x.isNaN <;> simp [isMissing, isAbsent, isNull]
  | text s => simp [equal, order, isMissing, isAbsent, isNull, hasNaN]
  | bool b => simp [equal, order, isMissing, isAbsent, isNull, hasNaN]
  | geometry g =>
    simp [equal, g.same_self, Coord.same_self, isMissing, isAbsent, isNull, hasNaN]

end Value

namespace CompareOp

/-- The operator that holds from right to left where this one holds from left to right. -/
def flipped : CompareOp → CompareOp
  | eq => eq
  | ne => ne
  | lt => gt
  | le => ge
  | gt => lt
  | ge => le

theorem holds_flipped (op : CompareOp) (v w : Value) : op.flipped.holds w v = op.holds v w := by
  cases op with
  | eq | ne => simp only [flipped, holds, Value.equal_comm]
  | lt | le | gt | ge =>
    simp only [flipped, holds, Value.order_swap v w]
    cases v.order w with
    | none => rfl
    | some o => cases o <;> rfl

/-- Whether an operator asks for an order. -/
def isOrdering : CompareOp → Bool
  | eq | ne => false
  | lt | le | gt | ge => true

end CompareOp

namespace Value

/-- Whether a value is a geometry. -/
def isGeometry : Value → Bool
  | geometry _ => true
  | _ => false

/-- Geometries have no order. -/
theorem order_of_isGeometry {v w : Value} (h : v.isGeometry = true ∨ w.isGeometry = true) :
    v.order w = none := by
  cases v with
  | geometry g => rfl
  | _ =>
    cases w with
    | geometry g => rfl
    | _ => exact absurd h (by simp [isGeometry])

/-- Other values are equal where their order says so. -/
theorem equal_eq_order {v w : Value} (h : ¬ (v.isGeometry = true ∨ w.isGeometry = true)) :
    v.equal w = (v.order w).map (· == .eq) := by
  cases v with
  | geometry g => exact absurd (.inl rfl) h
  | _ =>
    cases w with
    | geometry g => exact absurd (.inr rfl) h
    | _ => rfl

/-- Where there is an order, equality goes by it. -/
theorem equal_of_order {v w : Value} {o : Ordering} (h : v.order w = some o) :
    v.equal w = some (o == .eq) := by
  have hGeometry : ¬ (v.isGeometry = true ∨ w.isGeometry = true) := by
    intro hGeometry
    rw [order_of_isGeometry hGeometry] at h
    exact absurd h (by simp)
  rw [equal_eq_order hGeometry, h]
  rfl

/-- Equality without an order is that of a geometry. -/
theorem isGeometry_of_equal {v w : Value} {b : Bool} (h : v.equal w = some b)
    (hOrder : v.order w = none) : v.isGeometry = true ∨ w.isGeometry = true := by
  by_contra hGeometry
  rw [equal_eq_order hGeometry, hOrder] at h
  exact absurd h (by simp)

/-! ## The six operators -/

/-- How the operators agree on two values. -/
inductive Agreement (v w : Value) : Prop where
  /-- The values do not compare. -/
  | none (h : ∀ op, CompareOp.holds op v w = false) : Agreement v w
  /-- The values are equal or different, and nothing else. -/
  | equality (hGeometry : v.isGeometry = true ∨ w.isGeometry = true)
      (hOne : CompareOp.ne.holds v w = !CompareOp.eq.holds v w)
      (hOrder : ∀ op, CompareOp.isOrdering op = true → op.holds v w = false) : Agreement v w
  /-- The values have an order. -/
  | order (hOne : ∃! op, op ∈ [CompareOp.lt, .eq, .gt] ∧ op.holds v w = true)
      (hLe : CompareOp.le.holds v w = (CompareOp.lt.holds v w || CompareOp.eq.holds v w))
      (hGe : CompareOp.ge.holds v w = (CompareOp.gt.holds v w || CompareOp.eq.holds v w))
      (hNe : CompareOp.ne.holds v w = !CompareOp.eq.holds v w) : Agreement v w

theorem Agreement.of_order {v w : Value} {o : Ordering} (h : v.order w = some o) :
    Agreement v w := by
  have hEqual := equal_of_order h
  refine .order ?_ ?_ ?_ ?_
  · cases o with
    | lt =>
      refine ⟨.lt, ⟨by simp, by simp [CompareOp.holds, h]⟩, ?_⟩
      rintro op ⟨hMem, hHolds⟩
      cases op <;> simp [CompareOp.holds, h, hEqual] at hMem hHolds ⊢
    | eq =>
      refine ⟨.eq, ⟨by simp, by simp [CompareOp.holds, hEqual]⟩, ?_⟩
      rintro op ⟨hMem, hHolds⟩
      cases op <;> simp [CompareOp.holds, h, hEqual] at hMem hHolds ⊢
    | gt =>
      refine ⟨.gt, ⟨by simp, by simp [CompareOp.holds, h]⟩, ?_⟩
      rintro op ⟨hMem, hHolds⟩
      cases op <;> simp [CompareOp.holds, h, hEqual] at hMem hHolds ⊢
  all_goals simp only [CompareOp.holds, h, hEqual]; cases o <;> rfl

theorem agreement (v w : Value) : Agreement v w := by
  cases hOrder : v.order w with
  | some o => exact .of_order hOrder
  | none =>
    cases hEqual : v.equal w with
    | none =>
      refine .none ?_
      intro op
      cases op <;> simp [CompareOp.holds, hOrder, hEqual]
    | some b =>
      refine .equality (isGeometry_of_equal hEqual hOrder) ?_ ?_
      · simp only [CompareOp.holds, hEqual]
        cases b <;> rfl
      · intro op hOp
        cases op <;> simp [CompareOp.holds, CompareOp.isOrdering, hOrder] at hOp ⊢

/-- A value that is missing compares with nothing. -/
theorem holds_of_isMissing {v w : Value} (h : v.isMissing = true ∨ w.isMissing = true)
    (op : CompareOp) : op.holds v w = false := by
  have hLeft : ∀ {v : Value} (w : Value) (op : CompareOp), v.isMissing = true →
      op.holds v w = false := by
    intro v w op hv
    cases v with
    | absent | null => cases w <;> cases op <;> rfl
    | number | text | bool | geometry => exact absurd hv Bool.false_ne_true
  rcases h with hv | hw
  · exact hLeft w op hv
  · rw [← CompareOp.holds_flipped]
    exact hLeft v op.flipped hw

/-- On any two values the six operators agree in one of three ways: none holds, or one value is a
    geometry and only equality is decided, or the values are ordered. An order decides equality,
    and missing values compare with nothing. -/
theorem operators_agree (v w : Value) :
    Agreement v w ∧ (∀ o, v.order w = some o → v.equal w = some (o == .eq)) ∧
      (v.isMissing = true ∨ w.isMissing = true → ∀ op, CompareOp.holds op v w = false) :=
  ⟨agreement v w, fun _ => equal_of_order, holds_of_isMissing⟩

/-- A number and a text that is none are ordered as texts, and nothing is below null. -/
theorem operators_agree_text :
    (Agreement (.number 5) (.text "abc") ∧ (Value.number 5).equal (.text "abc") = some false) ∧
      CompareOp.lt.holds (.number 5) .null = false := by
  have hText := operators_agree (.number 5) (.text "abc")
  have hOrder : (Value.number 5).order (.text "abc") = some .lt := by decide +kernel
  have hNull := operators_agree (.number 5) .null
  exact ⟨⟨hText.1, hText.2.1 .lt hOrder⟩, hNull.2.2 (.inr rfl) .lt⟩

/-- Exchanging two values keeps equality, turns their order around, and turns each operator into the
    one for the other direction. A value is equal to itself exactly if it is not missing and has no
    NaN in it. -/
theorem compare_exchanged :
    (∀ v w : Value, w.equal v = v.equal w ∧ w.order v = (v.order w).map Ordering.swap ∧
        ∀ op : CompareOp, op.flipped.holds w v = op.holds v w) ∧
      ∀ v : Value, v.equal v = some true ↔ v.isMissing = false ∧ v.hasNaN = false := by
  refine ⟨?_, equal_self⟩
  intro v w
  exact ⟨equal_comm w v, order_swap v w, fun op => CompareOp.holds_flipped op v w⟩

end Value

end GeoFilter
