import GeoFilter.Proofs.Geometry.Tokens
import GeoFilter.Proofs.Printer.Geometry

set_option autoImplicit false

/-! # How deep written geometries nest

The parentheses of written text match, so their nesting can be told from the geometry: a position
takes none, a path one pair around its positions, and so on. A multi-point is written with a pair
around each of its points. -/

namespace GeoFilter

namespace Geometry

mutual

/-- How deep the parentheses nest that the geometry is written with. -/
def nesting : Geometry → ℕ
  | point _ => 1
  | line _ _ => 1
  | lineString path => if path.isEmpty then 0 else 1
  | polygon shape => if (Wkt.rings shape).isEmpty then 0 else 2
  | multiPoint positions => if positions.isEmpty then 0 else 2
  | multiLineString paths => if paths.isEmpty then 0 else 2
  | multiPolygon shapes => if shapes.isEmpty then 0 else 3
  | collection members => if members.isEmpty then 0 else 1 + deepestMember members
  | rect _ _ => 2
  | triangle _ _ _ => 2

/-- The deepest nesting of a member of a collection. -/
def deepestMember : List Geometry → ℕ
  | [] => 0
  | member :: rest => max member.nesting (deepestMember rest)

end

theorem nesting_le_deepestMember {member : Geometry} {members : List Geometry}
    (h : member ∈ members) : member.nesting ≤ deepestMember members := by
  induction members with
  | nil => exact nomatch h
  | cons first rest ih =>
    rw [deepestMember]
    rcases List.mem_cons.1 h with rfl | h
    · exact Nat.le_max_left _ _
    · exact Nat.le_trans (ih h) (Nat.le_max_right _ _)

/-- A collection takes one level more than each of its members. -/
theorem nesting_lt_of_mem {member : Geometry} {members : List Geometry} (h : member ∈ members) :
    member.nesting < (collection members).nesting := by
  have hLe := nesting_le_deepestMember h
  have hSome : members.isEmpty = false := by
    rw [List.isEmpty_eq_false_iff]
    exact List.ne_nil_of_mem h
  rw [nesting, hSome, if_neg Bool.false_ne_true]
  omega

/-- Where the levels are enough for a collection, one less is enough for each of its members. -/
theorem exists_level_of_mem {member : Geometry} {members : List Geometry} (h : member ∈ members)
    {levels : ℕ} (hLevels : (collection members).nesting ≤ levels) :
    ∃ levels', levels = levels' + 1 ∧ member.nesting ≤ levels' := by
  have hLess := nesting_lt_of_mem h
  exact ⟨levels - 1, by omega, by omega⟩

end Geometry

namespace Wkt

/-! ## Texts in which parentheses match -/

theorem le_deepest (depth : ℕ) (cs : List Char) : depth ≤ deepest depth cs := by
  induction cs generalizing depth with
  | nil => exact Nat.le_refl depth
  | cons c cs ih =>
    rw [deepest]
    split
    · exact Nat.le_trans (Nat.le_succ depth) (ih (depth + 1))
    · split
      · exact Nat.le_max_left _ _
      · exact ih depth

/-- The parentheses of a text match and nest this deep, whatever stands around it. -/
def Nests (cs : List Char) (n : ℕ) : Prop :=
  ∀ depth more, deepest depth (cs ++ more) = max (depth + n) (deepest depth more)

theorem Nests.deepest {cs : List Char} {n : ℕ} (h : Nests cs n) : deepest 0 cs = n := by
  have hDeepest := h 0 []
  rw [List.append_nil] at hDeepest
  rw [hDeepest, Wkt.deepest]
  omega

theorem nests_nil : Nests [] 0 := fun depth more => (Nat.max_eq_right (le_deepest depth more)).symm

theorem Nests.append {cs cs' : List Char} {n n' : ℕ} (h : Nests cs n) (h' : Nests cs' n') :
    Nests (cs ++ cs') (max n n') := by
  intro depth more
  rw [List.append_assoc, h, h']
  omega

theorem nests_mark {c : Char} (hOpening : c ≠ '(') (hClosing : c ≠ ')') {cs : List Char} {n : ℕ}
    (h : Nests cs n) : Nests (c :: cs) n := by
  intro depth more
  rw [List.cons_append, Wkt.deepest, if_neg hOpening, if_neg hClosing]
  exact h depth more

theorem nests_of_all {cs : List Char} (h : cs.all (fun c => c != '(' && c != ')') = true) :
    Nests cs 0 := by
  induction cs with
  | nil => exact nests_nil
  | cons c cs ih =>
    simp only [List.all_cons, Bool.and_eq_true, bne_iff_ne] at h
    exact nests_mark h.1.1 h.1.2 (ih (by simpa using h.2))

theorem Nests.enclosed {cs : List Char} {n : ℕ} (h : Nests cs n) :
    Nests ('(' :: (cs ++ [')'])) (1 + n) := by
  intro depth more
  rw [List.cons_append, Wkt.deepest, if_pos rfl, List.append_assoc, h, List.singleton_append,
    Wkt.deepest, if_neg (by decide), if_pos rfl, Nat.add_sub_cancel]
  have hLe := le_deepest depth more
  omega

/-! ## Lists of parts -/

/-- The parts of a list nest, the deepest of them this deep. -/
inductive PartsNest : List (List Char) → ℕ → Prop where
  | nil : PartsNest [] 0
  | cons {part : List Char} {parts : List (List Char)} {n m : ℕ} (h : Nests part n)
      (hRest : PartsNest parts m) : PartsNest (part :: parts) (max n m)

/-- Parts that all nest alike. -/
theorem partsNest_map {α : Type} {text : α → List Char} {items : List α} {n : ℕ}
    (h : ∀ item ∈ items, Nests (text item) n) :
    PartsNest (items.map text) (if items.isEmpty then 0 else n) := by
  induction items with
  | nil => exact .nil
  | cons item items ih =>
    have hFirst := h item List.mem_cons_self
    have hOthers := ih fun item' hMem => h item' (List.mem_cons_of_mem _ hMem)
    have hParts := PartsNest.cons hFirst hOthers
    have hMax : max n (if items.isEmpty then 0 else n) = n := by split <;> omega
    rwa [hMax] at hParts

theorem PartsNest.commas {parts : List (List Char)} {n : ℕ} (h : PartsNest parts n) :
    Nests (commas parts) n := by
  induction h with
  | nil => exact nests_nil
  | @cons part parts n m hPart hRest ih =>
    cases hRest with
    | nil =>
      rw [Nat.max_zero]
      exact hPart
    | cons hNext hRest => exact hPart.append (nests_mark (by decide) (by decide) ih)

theorem PartsNest.group {parts : List (List Char)} {n : ℕ} (h : PartsNest parts n) :
    Nests (group parts) (1 + n) := h.commas.enclosed

theorem PartsNest.tagged {parts : List (List Char)} {n : ℕ} (h : PartsNest parts n)
    (kind : Kind) : Nests (tagged kind.word parts) (if parts.isEmpty then 0 else 1 + n) := by
  have hWord : Nests kind.word.toList 0 := by
    refine nests_of_all ?_
    cases kind <;> decide
  unfold Wkt.tagged
  split
  · exact hWord.append (nests_of_all (by decide))
  · rw [← Nat.zero_max (1 + n)]
    exact hWord.append h.group

/-! ## The text of a geometry -/

theorem nests_run {run : List Char} (h : ∀ c ∈ run, isRunMark c = true) : Nests run 0 := by
  refine nests_of_all (List.all_eq_true.2 ?_)
  intro c hc
  have hMark := h c hc
  simp only [isRunMark, isCut, Bool.and_eq_true, Bool.not_eq_true', Bool.or_eq_false_iff,
    beq_eq_false_iff_ne] at hMark
  simp [hMark]

theorem nests_coordText {c : Coord} (h : c.isFinite = true) : Nests (coordText c) 0 := by
  rw [Coord.isFinite, Bool.and_eq_true] at h
  have hx := nests_run (run_positional h.1)
  have hy := nests_run (run_positional h.2)
  exact hx.append (nests_mark (by decide) (by decide) hy)

theorem nests_pathText {path : Path} (h : path.Finite) : Nests (pathText path) 1 := by
  have hParts := partsNest_map fun c hc => nests_coordText (h c hc)
  rw [ite_self] at hParts
  exact hParts.group

theorem nests_polygonText {shape : Polygon} (h : shape.Finite) : Nests (polygonText shape) 2 := by
  unfold polygonText
  split
  · have hRing : Nests (pathText []) 1 := nests_pathText fun _ hc => nomatch hc
    exact (PartsNest.cons hRing .nil).group
  · next hSome =>
    have hParts := partsNest_map fun path hPath => nests_pathText (finite_of_rings h path hPath)
    rw [if_neg hSome] at hParts
    exact hParts.group

end Wkt

namespace Geometry

open Wkt

theorem nests_ring {ring : Path} (h : ring.Finite) : PartsNest [pathText ring] 1 :=
  .cons (nests_pathText h) .nil

mutual

/-- Written text nests as deep as the geometry says. -/
theorem nests_wktChars : (g : Geometry) → g.Finite → Nests g.wktChars g.nesting
  | point position, h => (PartsNest.cons (nests_coordText h) .nil).tagged .point
  | line start finish, h =>
    (PartsNest.cons (nests_coordText h.1) (.cons (nests_coordText h.2) .nil)).tagged .lineString
  | lineString path, h => by
    have hParts := partsNest_map fun c hc => nests_coordText (h c hc)
    rw [ite_self] at hParts
    have hText := hParts.tagged .lineString
    rwa [List.isEmpty_map] at hText
  | polygon shape, h => by
    have hParts := partsNest_map fun path hPath => nests_pathText (finite_of_rings h path hPath)
    have hText := hParts.tagged .polygon
    rw [List.isEmpty_map] at hText
    rw [nesting, wktChars]
    generalize rings shape = paths at hText ⊢
    cases paths <;> exact hText
  | multiPoint positions, h => by
    have hPoint : ∀ c ∈ positions, Nests (group [coordText c]) 1 :=
      fun c hc => (PartsNest.cons (nests_coordText (h c hc)) .nil).group
    have hText := (partsNest_map hPoint).tagged .multiPoint
    rw [List.isEmpty_map] at hText
    cases positions <;> exact hText
  | multiLineString paths, h => by
    have hText := (partsNest_map fun path hPath => nests_pathText (h path hPath)).tagged
      .multiLineString
    rw [List.isEmpty_map] at hText
    cases paths <;> exact hText
  | multiPolygon shapes, h => by
    have hText := (partsNest_map fun shape hShape => nests_polygonText (h shape hShape)).tagged
      .multiPolygon
    rw [List.isEmpty_map] at hText
    cases shapes <;> exact hText
  | collection members, h => by
    have hText := (partsNest_memberChars members h).tagged .collection
    cases members <;> exact hText
  | rect low high, h => by
    obtain ⟨hLow, hHigh⟩ := h
    simp only [Coord.isFinite, Bool.and_eq_true] at hLow hHigh
    refine (nests_ring ?_).tagged .polygon
    simp [Path.Finite, Coord.isFinite, hLow, hHigh]
  | triangle a b c, h => by
    obtain ⟨ha, hb, hc⟩ := h
    refine (nests_ring ?_).tagged .polygon
    simp [Path.Finite, ha, hb, hc]

theorem partsNest_memberChars :
    (gs : List Geometry) → FiniteMembers gs → PartsNest (memberChars gs) (deepestMember gs)
  | [], _ => .nil
  | member :: rest, h => .cons (nests_wktChars member h.1) (partsNest_memberChars rest h.2)

end

end Geometry

end GeoFilter
