import GeoFilter.Cql.Printer
import GeoFilter.Proofs.Geometry.ReadBack

set_option autoImplicit false

/-! # Printable filters

The filters whose text stands for them. A literal must have text of its own: an absent value has
none, a number must be finite and a geometry must read back. A rectangle is printed only as the
box of a box test, by its corners. Lists must have a candidate, and combinations as many operands
as their texts need.

`nesting` counts the levels of a printed text: each minus sign of a number is one, each pair of
parentheses is one, and each NOT is one. -/

namespace GeoFilter

/-- The greatest of some numbers, zero if there is none. -/
def greatest (ns : List ℕ) : ℕ := ns.foldr max 0

/-! ## Values and expressions -/

/-- The value has a literal that is read as an equal value. -/
def Value.Printable : Value → Prop
  | .absent => False
  | .null => True
  | .number x => x.isFinite = true
  | .text _ => True
  | .bool _ => True
  | .geometry g => g.ReadsBack

/-- The levels of a literal: a number below zero has a minus sign. -/
def Value.nesting : Value → ℕ
  | .number x => if x < 0 then 1 else 0
  | _ => 0

namespace Expression

/-- Every literal is printable. -/
def Printable : Expression → Prop
  | literal value => value.Printable
  | attr _ => True
  | defaultGeometry => True
  | arithmetic _ left right => left.Printable ∧ right.Printable

/-- A rectangle is not printable: it is read back as a polygon. -/
theorem Printable.ne_rect {e : Expression} (h : e.Printable) (low high : Coord) :
    e ≠ .literal (.geometry (.rect low high)) := by
  rintro rfl
  exact absurd h.finite.2 (by simp [Geometry.isRect])

/-- The levels of the text of an expression. -/
def nesting : Expression → ℕ
  | literal value => value.nesting
  | attr _ => 0
  | defaultGeometry => 0
  | arithmetic _ left right => max left.nesting right.nesting + 1

/-- The geometries among the literals. -/
def geometries : Expression → List Geometry
  | literal (.geometry g) => [g]
  | literal _ => []
  | attr _ => []
  | defaultGeometry => []
  | arithmetic _ left right => left.geometries ++ right.geometries

end Expression

namespace Filter

/-! ## Filters -/

/-- Every literal is printable, no list is empty, a pattern compiles, and combinations have the
    operands that their texts need. The box of a box test is any rectangle with finite corners. -/
inductive Printable : Filter → Prop where
  | everything : Printable everything
  | nothing : Printable nothing
  | comparison {left right : Expression} (op : CompareOp) (hLeft : left.Printable)
      (hRight : right.Printable) : Printable (comparison op left right)
  | conjunction {fs : List Filter} (hLength : 2 ≤ fs.length) (h : ∀ f ∈ fs, Printable f) :
      Printable (logic .and fs)
  | disjunction {fs : List Filter} (hLength : 2 ≤ fs.length) (h : ∀ f ∈ fs, Printable f) :
      Printable (logic .or fs)
  | negation {f : Filter} (h : Printable f) : Printable (logic .not [f])
  | oneOf {e : Expression} {candidates : List Expression} (negated : Bool) (h : e.Printable)
      (hNe : candidates ≠ []) (hCandidates : ∀ c ∈ candidates, c.Printable) :
      Printable (oneOf e candidates negated)
  | like {e : Expression} {pattern : LikePattern} {source : String} {relaxed : Bool}
      (negated : Bool) (h : e.Printable)
      (hPattern : LikePattern.compile source relaxed = .ok pattern) :
      Printable (like e pattern negated)
  | isNull (name : String) (negated : Bool) : Printable (isNull name negated)
  | spatial {left right : Expression} (op : SpatialOp) (hLeft : left.Printable)
      (hRight : right.Printable) : Printable (spatial op left right)
  | box {e : Expression} {a b : Coord} (h : e.Printable) (ha : a.isFinite = true)
      (hb : b.isFinite = true) : Printable (inBox e a b)
  | ids {candidates : List Value} (hNe : candidates ≠ [])
      (hCandidates : ∀ v ∈ candidates, v.Printable) : Printable (ids candidates)

/-- The expressions that the arguments of a spatial predicate are printed as. -/
def spatialArguments (op : SpatialOp) (left right : Expression) : List Expression :=
  match op, right with
  | .bbox, .literal (.geometry (.rect low high)) =>
    left :: [low.x, low.y, high.x, high.y].map fun x => .literal (.number x)
  | _, _ => [left, right]

/-- Without a rectangle the arguments of a spatial predicate are printed as they are. -/
theorem spatialArguments_of_ne_rect (op : SpatialOp) (left : Expression) {right : Expression}
    (h : ∀ low high, right ≠ .literal (.geometry (.rect low high))) :
    spatialArguments op left right = [left, right] := by
  unfold spatialArguments
  split
  · exact absurd rfl (h _ _)
  · rfl

mutual

/-- The levels of the text of a filter. -/
def nesting : Filter → ℕ
  | everything => 0
  | nothing => 0
  | comparison _ left right => max left.nesting right.nesting
  | logic .not fs => nestingOfList fs + 2
  | logic _ fs => nestingOfList fs + 1
  | oneOf e candidates _ => max e.nesting (greatest (candidates.map Expression.nesting))
  | like e _ _ => e.nesting
  | isNull _ _ => 0
  | spatial op left right => greatest ((spatialArguments op left right).map Expression.nesting)
  | ids candidates => greatest (candidates.map Value.nesting)

/-- The greatest number of levels among operands. -/
def nestingOfList : List Filter → ℕ
  | [] => 0
  | f :: fs => max f.nesting (nestingOfList fs)

/-- The geometries among the literals, without the boxes of box tests. -/
def geometries : Filter → List Geometry
  | everything => []
  | nothing => []
  | comparison _ left right => left.geometries ++ right.geometries
  | logic _ fs => geometriesOfList fs
  | oneOf e candidates _ => e.geometries ++ candidates.flatMap Expression.geometries
  | like e _ _ => e.geometries
  | isNull _ _ => []
  | spatial op left right => (spatialArguments op left right).flatMap Expression.geometries
  | ids candidates => candidates.flatMap fun v => (Expression.literal v).geometries

/-- The geometries among the literals of operands. -/
def geometriesOfList : List Filter → List Geometry
  | [] => []
  | f :: fs => f.geometries ++ geometriesOfList fs

end

end Filter

end GeoFilter
