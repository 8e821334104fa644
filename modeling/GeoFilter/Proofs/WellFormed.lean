import GeoFilter.Proofs.Geometry.ReadBack
import GeoFilter.Proofs.Lexer.Append

set_option autoImplicit false

/-! # What the parser builds is well-formed

A filter that was read has literals that can be written: no absent value, finite numbers, and
geometries with finite coordinates of the kinds that have a word of their own. Its lists have a
candidate, its combinations have as many operands as their operator takes, and a rectangle stands
only where a box test has its box, its low corner not above its high one. -/

namespace GeoFilter

open Cql Cql.Grammar

/-! ## Numbers -/

namespace Cql

/-- The number of a token is finite. -/
theorem isFinite_of_scan {first : Char} {rest : List Char} {x : Float} {n : ℕ}
    (h : scan first rest = some (.number x, n)) : x.isFinite = true := by
  unfold scan at h
  split at h
  · obtain ⟨token, -, hToken⟩ := Option.map_eq_some_iff.1 h
    exact absurd (Prod.mk.inj hToken).1 (by simp)
  · split at h
    · obtain ⟨token, -, hToken⟩ := Option.map_eq_some_iff.1 h
      exact absurd (Prod.mk.inj hToken).1 (by simp)
    · split at h
      · obtain ⟨y, hRead, hToken⟩ := Option.map_eq_some_iff.1 h
        obtain ⟨-, hFinite⟩ := Option.filter_eq_some_iff.1 hRead
        obtain ⟨hKind, -⟩ := Prod.mk.inj hToken
        obtain rfl := TokenKind.number.inj hKind
        exact hFinite
      · split at h
        · rcases scanWord_cases h with ⟨-, ⟨_, hKind⟩ | ⟨_, hKind⟩⟩ | ⟨_, -, -, -, hKind⟩ <;>
            exact nomatch hKind
        · unfold scanMark at h
          split at h <;> exact absurd h (by simp)

/-- The numbers among the tokens are finite. -/
def FiniteNumbers (ks : List TokenKind) : Prop := ∀ x, .number x ∈ ks → x.isFinite = true

theorem Cuts.finiteNumbers {cs rest : List Char} {ks : List TokenKind} (h : Cuts cs ks rest) :
    FiniteNumbers ks := by
  induction h with
  | done => exact fun x hMem => nomatch hMem
  | space _ _ ih => exact ih
  | token hScan _ ih =>
    intro x hMem
    rcases List.mem_cons.1 hMem with rfl | hMem
    · exact isFinite_of_scan hScan
    · exact ih x hMem

theorem FiniteNumbers.left {ks ks' : List TokenKind} (h : FiniteNumbers (ks ++ ks')) :
    FiniteNumbers ks := fun x hMem => h x (List.mem_append_left ks' hMem)

theorem FiniteNumbers.right {ks ks' : List TokenKind} (h : FiniteNumbers (ks ++ ks')) :
    FiniteNumbers ks' := fun x hMem => h x (List.mem_append_right ks hMem)

theorem FiniteNumbers.tail {k : TokenKind} {ks : List TokenKind} (h : FiniteNumbers (k :: ks)) :
    FiniteNumbers ks := fun x hMem => h x (List.mem_cons_of_mem k hMem)

end Cql

/-! ## Literals and expressions -/

/-- The value can be written as a literal: it is not absent, a number is finite, and a geometry has
    finite coordinates and no segment, rectangle or triangle in it. -/
def Value.WellFormed : Value → Prop
  | .absent => False
  | .null => True
  | .number x => x.isFinite = true
  | .text _ => True
  | .bool _ => True
  | .geometry g => g.isFinite = true ∧ g.Plain

/-- Every literal is well-formed. -/
def Expression.WellFormed : Expression → Prop
  | .literal value => value.WellFormed
  | .attr _ => True
  | .defaultGeometry => True
  | .arithmetic _ left right => left.WellFormed ∧ right.WellFormed

theorem wellFormed_of_arithmetic {b : Binding} {d : ℕ} {ks : List TokenKind} {e : Expression}
    (h : Arithmetic b d ks e) (hNumbers : FiniteNumbers ks) : e.WellFormed := by
  induction h with
  | number x => exact hNumbers x List.mem_cons_self
  | text | true | false | null | quotedName | name | defaultGeometry => trivial
  | geometry h =>
    obtain ⟨hFinite, hPlain⟩ := Geometry.finite_of_ofWkt h
    exact ⟨(Geometry.isFinite_iff _).2 hFinite, hPlain⟩
  | group _ ih => exact ih hNumbers.tail.left
  | operand _ ih | factor _ ih | term _ ih => exact ih hNumbers
  | minusNumber _ ih => exact Number.isFinite_neg (ih hNumbers.tail)
  | minus _ _ ih =>
    have hOne : (-1 : Float).isFinite = true := by decide
    exact ⟨hOne, ih hNumbers.tail⟩
  | factors _ _ _ ihLeft ihRight | terms _ _ _ ihLeft ihRight =>
    exact ⟨ihLeft hNumbers.left, ihRight hNumbers.right.tail⟩

theorem listing_ne_nil {d : ℕ} {ks : List TokenKind} {es : List Expression} (h : Listing d ks es) :
    es ≠ [] := by
  cases h <;> exact List.cons_ne_nil _ _

theorem wellFormed_of_listing {d : ℕ} {ks : List TokenKind} {es : List Expression}
    (h : Listing d ks es) (hNumbers : FiniteNumbers ks) : ∀ e ∈ es, e.WellFormed := by
  induction h with
  | one h =>
    intro e hMem
    obtain rfl := List.mem_singleton.1 hMem
    exact wellFormed_of_arithmetic h hNumbers
  | more hFirst _ ih =>
    intro e hMem
    rcases List.mem_cons.1 hMem with rfl | hMem
    · exact wellFormed_of_arithmetic hFirst hNumbers.left
    · exact ih hNumbers.right.tail e hMem

/-! ## Filters -/

/-- Every literal is well-formed, no list is empty, AND and OR have two operands or more and NOT
    has one. A rectangle is the box of a box test and nothing else, and its low corner is not
    above its high one. -/
inductive Filter.WellFormed : Filter → Prop where
  | everything : WellFormed .everything
  | nothing : WellFormed .nothing
  | comparison {left right : Expression} (op : CompareOp) (hLeft : left.WellFormed)
      (hRight : right.WellFormed) : WellFormed (.comparison op left right)
  | conjunction {fs : List Filter} (hLength : 2 ≤ fs.length) (h : ∀ f ∈ fs, WellFormed f) :
      WellFormed (.logic .and fs)
  | disjunction {fs : List Filter} (hLength : 2 ≤ fs.length) (h : ∀ f ∈ fs, WellFormed f) :
      WellFormed (.logic .or fs)
  | negation {f : Filter} (h : WellFormed f) : WellFormed (.logic .not [f])
  | oneOf {e : Expression} {candidates : List Expression} (negated : Bool) (h : e.WellFormed)
      (hNe : candidates ≠ []) (hCandidates : ∀ c ∈ candidates, c.WellFormed) :
      WellFormed (.oneOf e candidates negated)
  | like {e : Expression} {pattern : LikePattern} {source : String} (negated : Bool)
      (h : e.WellFormed) (hPattern : LikePattern.compile source false = .ok pattern) :
      WellFormed (.like e pattern negated)
  | isNull (name : String) (negated : Bool) : WellFormed (.isNull name negated)
  | spatial {left right : Expression} (op : SpatialOp) (hLeft : left.WellFormed)
      (hRight : right.WellFormed) : WellFormed (.spatial op left right)
  | box {e : Expression} {low high : Coord} (h : e.WellFormed) (hLow : low.isFinite = true)
      (hHigh : high.isFinite = true) (hx : low.x ≤ high.x) (hy : low.y ≤ high.y) :
      WellFormed (.spatial .bbox e (.literal (.geometry (.rect low high))))
  | ids {candidates : List Value} (hNe : candidates ≠ [])
      (hCandidates : ∀ v ∈ candidates, v.WellFormed) : WellFormed (.ids candidates)

namespace Filter

theorem wellFormed_allOf {fs : List Filter} (h : ∀ f ∈ fs, f.WellFormed) :
    (allOf fs).WellFormed := by
  rcases fs with _ | ⟨f, _ | ⟨g, fs⟩⟩
  · exact .everything
  · exact h f List.mem_cons_self
  · exact .conjunction (by simp) h

theorem wellFormed_anyOf {fs : List Filter} (h : ∀ f ∈ fs, f.WellFormed) :
    (anyOf fs).WellFormed := by
  rcases fs with _ | ⟨f, _ | ⟨g, fs⟩⟩
  · exact .nothing
  · exact h f List.mem_cons_self
  · exact .disjunction (by simp) h

theorem wellFormed_inBox {e : Expression} {a b : Coord} (h : e.WellFormed)
    (ha : a.isFinite = true) (hb : b.isFinite = true) : (inBox e a b).WellFormed := by
  obtain ⟨low, high, hRect, hLow, hHigh, hx, hy⟩ := Geometry.ofCorners_ordered ha hb
  rw [inBox, hRect]
  exact .box h hLow hHigh hx hy

theorem wellFormed_pair {f g : Filter} (hf : f.WellFormed) (hg : g.WellFormed) :
    ∀ f' ∈ [f, g], f'.WellFormed := by
  intro f' hMem
  rcases List.mem_cons.1 hMem with rfl | hMem
  · exact hf
  · rwa [List.mem_singleton.1 hMem]

theorem wellFormed_between {e low high : Expression} (h : e.WellFormed) (hLow : low.WellFormed)
    (hHigh : high.WellFormed) : (between e low high).WellFormed :=
  wellFormed_allOf (wellFormed_pair (.comparison .ge h hLow) (.comparison .le h hHigh))

theorem wellFormed_notBetween {e low high : Expression} (h : e.WellFormed)
    (hLow : low.WellFormed) (hHigh : high.WellFormed) : (notBetween e low high).WellFormed :=
  wellFormed_anyOf (wellFormed_pair (.comparison .lt h hLow) (.comparison .gt h hHigh))

end Filter

/-- What a derivation denotes is well-formed. -/
def Cql.Grammar.Level.WellFormed : (l : Level) → l.Meaning → Prop
  | .alternatives, fs => ∀ f ∈ fs, Filter.WellFormed f
  | .conjuncts, fs => ∀ f ∈ fs, Filter.WellFormed f
  | .disjunction, f => Filter.WellFormed f
  | .conjunction, f => Filter.WellFormed f
  | .negation, f => Filter.WellFormed f
  | .predicate, f => Filter.WellFormed f

/-- Whatever tokens with finite numbers denote is well-formed. -/
theorem wellFormed_of_sentence {l : Level} {d : ℕ} {ks : List TokenKind} {m : l.Meaning}
    (h : Sentence l d ks m) (hNumbers : FiniteNumbers ks) : l.WellFormed m := by
  induction h with
  | disjunction _ ih => exact Filter.wellFormed_anyOf (ih hNumbers)
  | conjunction _ ih => exact Filter.wellFormed_allOf (ih hNumbers)
  | alternative _ ih | conjunct _ ih =>
    intro f hMem
    rw [List.mem_singleton.1 hMem]
    exact ih hNumbers
  | alternatives _ _ ihFirst ihOthers | conjuncts _ _ ihFirst ihOthers =>
    intro f hMem
    rcases List.mem_cons.1 hMem with rfl | hMem
    · exact ihFirst hNumbers.left
    · exact ihOthers hNumbers.right.tail f hMem
  | not _ ih => exact .negation (ih hNumbers.tail)
  | predicate _ ih => exact ih hNumbers
  | everything => exact .everything
  | nothing => exact .nothing
  | @ids d u vs h =>
    have hVs := wellFormed_of_listing h hNumbers.tail.tail.left
    refine .ids ?_ fun v hMem => hVs _ (List.mem_map_of_mem hMem)
    simpa using listing_ne_nil h
  | @spatial d u name op left right _ h =>
    have hBoth := wellFormed_of_listing h hNumbers.tail.tail.left
    exact .spatial op (hBoth left (by simp)) (hBoth right (by simp))
  | @box d u name e x₁ y₁ x₂ y₂ _ h =>
    have hAll := wellFormed_of_listing h hNumbers.tail.tail.left
    have hCorner : ∀ x ∈ [x₁, y₁, x₂, y₂], x.isFinite = true := fun x hMem =>
      hAll (.literal (.number x)) (by simp at hMem; simp [hMem])
    exact Filter.wellFormed_inBox (hAll e List.mem_cons_self) (by simp [Coord.isFinite, hCorner])
      (by simp [Coord.isFinite, hCorner])
  | group _ ih => exact ih hNumbers.tail.left
  | comparison op hLeft hRight =>
    exact .comparison op (wellFormed_of_arithmetic hLeft hNumbers.left)
      (wellFormed_of_arithmetic hRight hNumbers.right.tail)
  | membership negated h hList =>
    exact .oneOf negated (wellFormed_of_arithmetic h hNumbers.left) (listing_ne_nil hList)
      (wellFormed_of_listing hList hNumbers.right.right.tail.tail.left)
  | like negated h hPattern =>
    exact .like negated (wellFormed_of_arithmetic h hNumbers.left) hPattern
  | between h hLow hHigh =>
    have hRest := hNumbers.right.tail
    exact Filter.wellFormed_between (wellFormed_of_arithmetic h hNumbers.left)
      (wellFormed_of_arithmetic hLow hRest.left) (wellFormed_of_arithmetic hHigh hRest.right.tail)
  | notBetween h hLow hHigh =>
    have hRest := hNumbers.right.tail.tail
    exact Filter.wellFormed_notBetween (wellFormed_of_arithmetic h hNumbers.left)
      (wellFormed_of_arithmetic hLow hRest.left) (wellFormed_of_arithmetic hHigh hRest.right.tail)
  | nullTest negated h => exact .isNull _ negated

/-- Every filter that was read is well-formed: the lexer lets no infinite number through, and the
    grammar builds no other shapes. -/
theorem parse_wellFormed {source : String} {m : ℕ} {f : Filter} (h : parse source m = .ok f) :
    f.WellFormed := by
  obtain ⟨d, ks, -, hCuts, hSentence⟩ := cuts_of_parse h
  exact wellFormed_of_sentence hSentence hCuts.finiteNumbers

/-- A range that is turned around, and a box with its corners given in another order. -/
theorem parse_wellFormed_box :
    ∃ f, parse "x NOT BETWEEN -1 AND 2 AND BBOX(geometry(), 3, -4, 1, 2)" 1 = .ok f ∧
      f.WellFormed := by
  have hOk : (parse "x NOT BETWEEN -1 AND 2 AND BBOX(geometry(), 3, -4, 1, 2)" 1).isOk = true := by
    decide +kernel
  cases hParse : parse "x NOT BETWEEN -1 AND 2 AND BBOX(geometry(), 3, -4, 1, 2)" 1 with
  | error e =>
    rw [hParse] at hOk
    exact absurd hOk Bool.false_ne_true
  | ok f => exact ⟨f, rfl, parse_wellFormed hParse⟩

end GeoFilter
