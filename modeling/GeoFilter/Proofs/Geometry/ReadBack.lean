import GeoFilter.Geometry.Wkt.Reader
import GeoFilter.Geometry.Wkt.Writer
import GeoFilter.Proofs.Number.Double

set_option autoImplicit false

/-! # Geometries that read back

A geometry reads back if its text is read as an equal geometry. What is read has finite
coordinates and is never a rectangle, and equality carries both over, so a geometry that reads
back has them too. -/

namespace GeoFilter

/-- Reading the text of the geometry gives an equal geometry. -/
def Geometry.ReadsBack (g : Geometry) : Prop :=
  ∃ g', Geometry.ofWkt g.toWkt = .ok g' ∧ g'.same g = true

/-- Whether reading the text of the geometry gives an equal geometry. -/
def Geometry.readsBack (g : Geometry) : Bool :=
  match Geometry.ofWkt g.toWkt with
  | .ok g' => g'.same g
  | .error _ => false

theorem Geometry.readsBack_iff (g : Geometry) : g.readsBack = true ↔ g.ReadsBack := by
  unfold Geometry.readsBack Geometry.ReadsBack
  cases Geometry.ofWkt g.toWkt with
  | ok g' =>
    constructor
    · intro hSame
      exact ⟨g', rfl, hSame⟩
    · rintro ⟨g'', hRead, hSame⟩
      obtain rfl := Except.ok.inj hRead
      exact hSame
  | error e => simp

instance (g : Geometry) : Decidable g.ReadsBack :=
  decidable_of_iff (g.readsBack = true) g.readsBack_iff

/-! ## Equality and finiteness -/

namespace Number

/-- Only finite numbers are equal to finite numbers. -/
theorem isFinite_of_beq {x y : Float} (h : (x == y) = true) (hx : x.isFinite = true) :
    y.isFinite = true := by
  rw [beq_iff] at h
  have hFinite : x.toModel.unpack.isFinite = true := hx
  show y.toModel.unpack.isFinite = true
  cases hy : y.toModel.unpack with
  | zero | finite => rfl
  | infinity s =>
    rw [hy] at h
    cases hu : x.toModel.unpack with
    | infinity | notANumber =>
      rw [hu] at hFinite
      exact absurd hFinite Bool.false_ne_true
    | zero | finite =>
      rw [hu] at h
      cases s <;> nomatch h
  -- What is not a number equals nothing.
  | notANumber =>
    rw [hy] at h
    cases hu : x.toModel.unpack <;> rw [hu] at h <;> nomatch h

end Number

/-- The position without the signs of zeros. -/
def Coord.withoutZeroSigns (c : Coord) : Coord :=
  ⟨Number.withoutZeroSign c.x, Number.withoutZeroSign c.y⟩

theorem Coord.isFinite_of_same {a b : Coord} (h : a.same b = true) (ha : a.isFinite = true) :
    b.isFinite = true := by
  unfold Coord.same at h
  unfold Coord.isFinite at *
  rw [Bool.and_eq_true] at *
  exact ⟨Number.isFinite_of_beq h.1 ha.1, Number.isFinite_of_beq h.2 ha.2⟩

theorem Coord.same_self_of_isFinite {c : Coord} (h : c.isFinite = true) : c.same c = true := by
  rw [Coord.isFinite, Bool.and_eq_true] at h
  rw [Coord.same, Number.beq_self_of_isFinite h.1, Number.beq_self_of_isFinite h.2]
  rfl

/-- What equality carries over from item to item it carries over from list to list. -/
theorem forall_of_sameLists {α : Type} {same : α → α → Bool} {p : α → Prop}
    (h : ∀ a b, same a b = true → p a → p b) {as bs : List α}
    (hSame : sameLists same as bs = true) (hp : ∀ a ∈ as, p a) : ∀ b ∈ bs, p b := by
  induction as generalizing bs with
  | nil =>
    cases bs with
    | nil => exact fun _ hb => nomatch hb
    | cons b bs => exact absurd hSame (by simp [sameLists])
  | cons a as ih =>
    cases bs with
    | nil => exact absurd hSame (by simp [sameLists])
    | cons b bs =>
      simp only [sameLists, Bool.and_eq_true] at hSame
      intro b' hb'
      rcases List.mem_cons.1 hb' with rfl | hb'
      · exact h a b' hSame.1 (hp a List.mem_cons_self)
      · exact ih hSame.2 (fun a' ha' => hp a' (List.mem_cons_of_mem a ha')) b' hb'

/-- All coordinates of a path are finite. -/
def Path.Finite (path : Path) : Prop := ∀ c ∈ path, c.isFinite = true

theorem Path.finite_of_same {p q : Path} (h : Path.same p q = true) (hp : p.Finite) : q.Finite :=
  forall_of_sameLists (p := fun c : Coord => c.isFinite = true)
    (fun _ _ hSame ha => Coord.isFinite_of_same hSame ha) h hp

theorem Path.finite_of_sameLists {ps qs : List Path} (h : sameLists Path.same ps qs = true)
    (hp : ∀ path ∈ ps, Path.Finite path) : ∀ path ∈ qs, Path.Finite path :=
  forall_of_sameLists (p := Path.Finite) (fun _ _ hSame hp => Path.finite_of_same hSame hp) h hp

/-- All coordinates of a polygon are finite. -/
def Polygon.Finite (shape : Polygon) : Prop :=
  shape.exterior.Finite ∧ ∀ path ∈ shape.interiors, Path.Finite path

theorem Polygon.finite_of_same {p q : Polygon} (h : p.same q = true) (hp : p.Finite) :
    q.Finite := by
  unfold Polygon.same at h
  rw [Bool.and_eq_true] at h
  exact ⟨Path.finite_of_same h.1 hp.1, Path.finite_of_sameLists h.2 hp.2⟩

namespace Geometry

/-! ## Coordinates, part by part -/

mutual

/-- All coordinates are finite. -/
def Finite : Geometry → Prop
  | point position => position.isFinite = true
  | line start finish => start.isFinite = true ∧ finish.isFinite = true
  | lineString path => path.Finite
  | polygon shape => shape.Finite
  | multiPoint positions => ∀ c ∈ positions, Coord.isFinite c = true
  | multiLineString paths => ∀ path ∈ paths, Path.Finite path
  | multiPolygon shapes => ∀ shape ∈ shapes, Polygon.Finite shape
  | collection members => FiniteMembers members
  | rect low high => low.isFinite = true ∧ high.isFinite = true
  | triangle a b c => a.isFinite = true ∧ b.isFinite = true ∧ c.isFinite = true

/-- All coordinates of the members of a collection are finite. -/
def FiniteMembers : List Geometry → Prop
  | [] => True
  | member :: rest => member.Finite ∧ FiniteMembers rest

end

theorem finiteMembers_iff {gs : List Geometry} : FiniteMembers gs ↔ ∀ g ∈ gs, g.Finite := by
  induction gs with
  | nil => simp [FiniteMembers]
  | cons g gs ih => simp [FiniteMembers, ih]

theorem polygon_finite_iff (shape : Polygon) :
    (∀ c ∈ shape.exterior ++ shape.interiors.flatten, Coord.isFinite c = true)
      ↔ shape.Finite := by
  simp only [Polygon.Finite, Path.Finite, List.mem_append, List.mem_flatten, or_imp, forall_and,
    forall_exists_index, and_imp]
  exact ⟨fun h => ⟨h.1, fun path hPath c hc => h.2 c path hPath hc⟩,
    fun h => ⟨h.1, fun c path hPath hc => h.2 path hPath c hc⟩⟩

mutual

theorem coords_finite_iff : (g : Geometry) → (∀ c ∈ g.coords, c.isFinite = true) ↔ g.Finite
  | point position => by simp [coords, Finite]
  | line start finish => by simp [coords, Finite]
  | lineString path => Iff.rfl
  | polygon shape => polygon_finite_iff shape
  | multiPoint positions => Iff.rfl
  | multiLineString paths => by
    simp only [coords, Finite, Path.Finite, List.mem_flatten, forall_exists_index, and_imp]
    exact ⟨fun h path hPath c hc => h c path hPath hc, fun h c path hPath hc => h path hPath c hc⟩
  | multiPolygon shapes => by
    simp only [coords, Finite, List.mem_flatMap, forall_exists_index, and_imp]
    constructor
    · intro h shape hShape
      exact (polygon_finite_iff shape).1 fun c hc => h c shape hShape hc
    · intro h c shape hShape hc
      exact (polygon_finite_iff shape).2 (h shape hShape) c hc
  | collection members => coordsOfList_finite_iff members
  | rect low high => by simp [coords, Finite]
  | triangle a b c => by simp [coords, Finite]

theorem coordsOfList_finite_iff :
    (gs : List Geometry) → (∀ c ∈ coordsOfList gs, c.isFinite = true) ↔ FiniteMembers gs
  | [] => by simp [coordsOfList, FiniteMembers]
  | member :: rest => by
    have hMember := coords_finite_iff member
    have hRest := coordsOfList_finite_iff rest
    simp only [coordsOfList, FiniteMembers, List.mem_append, or_imp, forall_and, hMember, hRest]

end

theorem isFinite_iff (g : Geometry) : g.isFinite = true ↔ g.Finite := by
  rw [← coords_finite_iff, isFinite, List.all_eq_true]

mutual

theorem finite_of_same : (g h : Geometry) → g.same h = true → g.Finite → h.Finite
  | point p, point q, h, hp => Coord.isFinite_of_same h hp
  | line p q, line r s, h, hp => by
    simp only [same, Bool.and_eq_true] at h
    exact ⟨Coord.isFinite_of_same h.1 hp.1, Coord.isFinite_of_same h.2 hp.2⟩
  | lineString p, lineString q, h, hp => Path.finite_of_same h hp
  | polygon p, polygon q, h, hp => Polygon.finite_of_same h hp
  | multiPoint p, multiPoint q, h, hp => Path.finite_of_same (p := p) (q := q) h hp
  | multiLineString p, multiLineString q, h, hp => Path.finite_of_sameLists h hp
  | multiPolygon p, multiPolygon q, h, hp =>
    forall_of_sameLists (p := Polygon.Finite) (fun _ _ hSame hp => Polygon.finite_of_same hSame hp)
      h hp
  | collection p, collection q, h, hp => finiteMembers_of_same p q h hp
  | rect p q, rect r s, h, hp => by
    simp only [same, Bool.and_eq_true] at h
    exact ⟨Coord.isFinite_of_same h.1 hp.1, Coord.isFinite_of_same h.2 hp.2⟩
  | triangle a b c, triangle d e f, h, hp => by
    simp only [same, Bool.and_eq_true] at h
    exact ⟨Coord.isFinite_of_same h.1.1 hp.1, Coord.isFinite_of_same h.1.2 hp.2.1,
      Coord.isFinite_of_same h.2 hp.2.2⟩

theorem finiteMembers_of_same :
    (gs hs : List Geometry) → sameMembers gs hs = true → FiniteMembers gs → FiniteMembers hs
  | [], [], _, _ => trivial
  | g :: gs, h :: hs, hSame, hp => by
    simp only [sameMembers, Bool.and_eq_true] at hSame
    exact ⟨finite_of_same g h hSame.1 hp.1, finiteMembers_of_same gs hs hSame.2 hp.2⟩

end

/-! ## Rectangles -/

/-- Two numbers in order are put in order as themselves, with and without the signs of zeros. -/
theorem ordered_same {a b : Float} (ha : a.isFinite = true) (hb : b.isFinite = true) (h : a ≤ b) :
    ((if Number.withoutZeroSign a < Number.withoutZeroSign b
        then (Number.withoutZeroSign a, Number.withoutZeroSign b)
        else (Number.withoutZeroSign b, Number.withoutZeroSign a)).1 == a) = true ∧
      ((if Number.withoutZeroSign a < Number.withoutZeroSign b
        then (Number.withoutZeroSign a, Number.withoutZeroSign b)
        else (Number.withoutZeroSign b, Number.withoutZeroSign a)).2 == b) = true := by
  by_cases hLess : a < b
  · rw [if_pos (Number.withoutZeroSign_lt_iff.2 hLess)]
    exact ⟨Number.withoutZeroSign_beq ha, Number.withoutZeroSign_beq hb⟩
  -- Equal numbers change places, and differ in the sign of a zero at most.
  · have hEqual := Number.beq_of_le_of_not_lt h hLess
    rw [if_neg (mt Number.withoutZeroSign_lt_iff.1 hLess)]
    exact ⟨Number.withoutZeroSign_beq_iff.2 (Number.beq_symm ha hb hEqual),
      Number.withoutZeroSign_beq_iff.2 hEqual⟩

/-- A rectangle is built again from its low and its high corner. -/
theorem ofCorners_same {low high : Coord} (hLow : low.isFinite = true)
    (hHigh : high.isFinite = true) (hx : low.x ≤ high.x) (hy : low.y ≤ high.y) :
    (ofCorners low.withoutZeroSigns high.withoutZeroSigns).same (.rect low high) = true := by
  simp only [Coord.isFinite, Bool.and_eq_true] at hLow hHigh
  obtain ⟨hLowX, hHighX⟩ := ordered_same hLow.1 hHigh.1 hx
  obtain ⟨hLowY, hHighY⟩ := ordered_same hLow.2 hHigh.2 hy
  simp only [ofCorners, Coord.withoutZeroSigns, same, Coord.same, Bool.and_eq_true]
  exact ⟨⟨hLowX, hLowY⟩, hHighX, hHighY⟩

theorem ordered_le {a b : Float} (ha : a.isFinite = true) (hb : b.isFinite = true) :
    (if a < b then (a, b) else (b, a)).1.isFinite = true ∧
      (if a < b then (a, b) else (b, a)).2.isFinite = true ∧
      (if a < b then (a, b) else (b, a)).1 ≤ (if a < b then (a, b) else (b, a)).2 := by
  split
  · next h => exact ⟨ha, hb, Number.le_of_lt h⟩
  · next h => exact ⟨hb, ha, Number.le_of_not_lt ha hb h⟩

/-- Opposite corners make a rectangle whose low corner is not above its high one. -/
theorem ofCorners_ordered {a b : Coord} (ha : a.isFinite = true) (hb : b.isFinite = true) :
    ∃ low high, ofCorners a b = .rect low high ∧ low.isFinite = true ∧ high.isFinite = true ∧
      low.x ≤ high.x ∧ low.y ≤ high.y := by
  simp only [Coord.isFinite, Bool.and_eq_true] at ha hb ⊢
  obtain ⟨hLowX, hHighX, hx⟩ := ordered_le ha.1 hb.1
  obtain ⟨hLowY, hHighY, hy⟩ := ordered_le ha.2 hb.2
  exact ⟨_, _, rfl, ⟨hLowX, hLowY⟩, ⟨hHighX, hHighY⟩, hx, hy⟩

/-- A rectangle is made by its high corner and its low one. -/
theorem ofCorners_of_le {low high : Coord} (hLow : low.isFinite = true)
    (hHigh : high.isFinite = true) (hx : low.x ≤ high.x) (hy : low.y ≤ high.y) :
    ofCorners high low = .rect low high := by
  simp only [Coord.isFinite, Bool.and_eq_true] at hLow hHigh
  have hNotX := Number.not_lt_of_le hLow.1 hHigh.1 hx
  have hNotY := Number.not_lt_of_le hLow.2 hHigh.2 hy
  simp only [ofCorners, if_neg hNotX, if_neg hNotY]

/-! ## What can be read -/

/-- Whether a geometry is a rectangle. -/
def isRect : Geometry → Bool
  | rect _ _ => true
  | _ => false

mutual

/-- No part is a segment, a rectangle or a triangle: these kinds have no word of their own. -/
def Plain : Geometry → Prop
  | line _ _ => False
  | rect _ _ => False
  | triangle _ _ _ => False
  | collection members => PlainMembers members
  | point _ | lineString _ | polygon _ | multiPoint _ | multiLineString _ | multiPolygon _ => True

/-- No part of a member of a collection is a segment, a rectangle or a triangle. -/
def PlainMembers : List Geometry → Prop
  | [] => True
  | member :: rest => member.Plain ∧ PlainMembers rest

end

theorem plainMembers_iff {gs : List Geometry} : PlainMembers gs ↔ ∀ g ∈ gs, g.Plain := by
  induction gs with
  | nil => simp [PlainMembers]
  | cons g gs ih => simp [PlainMembers, ih]

theorem Plain.isRect {g : Geometry} (h : g.Plain) : g.isRect = false := by
  cases g with
  | rect low high => exact absurd h id
  | _ => rfl

/-- The geometries that reading makes: no segment, rectangle or triangle, and every polygon is made
    of rings. -/
inductive Made : Geometry → Prop where
  | point (position : Coord) : Made (.point position)
  | lineString (path : Path) : Made (.lineString path)
  | polygon {shape : Polygon} (h : ∃ paths, shape = .ofRings paths) : Made (.polygon shape)
  | multiPoint (positions : List Coord) : Made (.multiPoint positions)
  | multiLineString (paths : List Path) : Made (.multiLineString paths)
  | multiPolygon {shapes : List Polygon} (h : ∀ shape ∈ shapes, ∃ paths, shape = .ofRings paths) :
      Made (.multiPolygon shapes)
  | collection {members : List Geometry} (h : ∀ member ∈ members, Made member) :
      Made (.collection members)

theorem Made.plain {g : Geometry} (h : g.Made) : g.Plain := by
  induction h with
  | collection _ ih => exact plainMembers_iff.2 ih
  | _ => trivial

theorem exists_of_into {α : Type} {make : α → Geometry} {step : Wkt.Step α} {g : Geometry}
    {rest : List Wkt.Token} (h : Wkt.Step.into make step = some (g, rest)) :
    ∃ a, g = make a ∧ step = some (a, rest) := by
  obtain ⟨⟨a, rest'⟩, hStep, hPair⟩ := Option.map_eq_some_iff.1 h
  obtain ⟨rfl, rfl⟩ := Prod.mk.inj hPair
  exact ⟨a, rfl, hStep⟩

theorem exists_of_readBody {α : Type} {empty a : α} {body : List Wkt.Token → Wkt.Step α}
    {ts rest : List Wkt.Token} (h : Wkt.readBody empty body ts = some (a, rest)) :
    a = empty ∨ ∃ ts' rest', body ts' = some (a, rest') := by
  unfold Wkt.readBody at h
  split at h
  · next ts' =>
    split at h
    · next a' rest' hBody =>
      obtain ⟨rfl, rfl⟩ := Prod.mk.inj (Option.some.inj h)
      exact .inr ⟨ts', _, hBody⟩
    · exact absurd h (by simp)
  · split at h
    · obtain ⟨rfl, rfl⟩ := Prod.mk.inj (Option.some.inj h)
      exact .inl rfl
    · exact absurd h (by simp)
  · exact absurd h (by simp)

/-- What holds of every item that can be read holds of every item of a list. -/
theorem forall_of_readList {α : Type} {p : α → Prop} {item : List Wkt.Token → Wkt.Step α}
    (hItem : ∀ ts a rest, item ts = some (a, rest) → p a) {limit : ℕ}
    {ts rest : List Wkt.Token} {as : List α} (h : Wkt.readList item limit ts = some (as, rest)) :
    ∀ a ∈ as, p a := by
  induction limit generalizing ts as rest with
  | zero => exact absurd h (by simp [Wkt.readList])
  | succ limit ih =>
    rw [Wkt.readList] at h
    split at h
    · exact absurd h (by simp)
    · next first after hFirst =>
      obtain ⟨⟨others, rest'⟩, hOthers, hPair⟩ := Option.map_eq_some_iff.1 h
      obtain ⟨rfl, rfl⟩ := Prod.mk.inj hPair
      intro a hMem
      rcases List.mem_cons.1 hMem with rfl | hMem
      · exact hItem _ _ _ hFirst
      · exact ih hOthers a hMem
    · next first after _ hFirst =>
      obtain ⟨rfl, rfl⟩ := Prod.mk.inj (Option.some.inj h)
      intro a hMem
      obtain rfl := List.mem_singleton.1 hMem
      exact hItem _ _ _ hFirst

theorem exists_of_readPolygon {extra : ℕ} {ts rest : List Wkt.Token} {shape : Polygon}
    (h : Wkt.readPolygon extra ts = some (shape, rest)) : ∃ paths, shape = .ofRings paths := by
  obtain ⟨⟨paths, rest'⟩, -, hPair⟩ := Option.map_eq_some_iff.1 h
  obtain ⟨rfl, rfl⟩ := Prod.mk.inj hPair
  exact ⟨paths, rfl⟩

theorem made_of_readKind {member : List Wkt.Token → Wkt.Step Geometry}
    (hMember : ∀ ts g rest, member ts = some (g, rest) → g.Made) {extra : ℕ}
    {ts rest : List Wkt.Token} {kind : Wkt.Kind} {g : Geometry}
    (h : Wkt.readKind member extra ts kind = some (g, rest)) : g.Made := by
  cases kind with
  | point =>
    rcases exists_of_readBody h with rfl | ⟨ts', rest', hBody⟩
    · exact .multiPoint []
    · obtain ⟨position, rfl, -⟩ := exists_of_into hBody
      exact .point position
  | lineString | linearRing =>
    obtain ⟨path, rfl, -⟩ := exists_of_into h
    exact .lineString path
  | polygon =>
    obtain ⟨shape, rfl, hShape⟩ := exists_of_into h
    exact .polygon (exists_of_readPolygon hShape)
  | multiPoint =>
    obtain ⟨positions, rfl, -⟩ := exists_of_into h
    exact .multiPoint positions
  | multiLineString =>
    obtain ⟨paths, rfl, -⟩ := exists_of_into h
    exact .multiLineString paths
  | multiPolygon =>
    obtain ⟨shapes, rfl, hShapes⟩ := exists_of_into h
    rcases exists_of_readBody hShapes with rfl | ⟨ts', rest', hItems⟩
    · exact .multiPolygon fun _ hMem => nomatch hMem
    · exact .multiPolygon (forall_of_readList (fun _ _ _ => exists_of_readPolygon) hItems)
  | collection =>
    obtain ⟨members, rfl, hMembers⟩ := exists_of_into h
    rcases exists_of_readBody hMembers with rfl | ⟨ts', rest', hItems⟩
    · exact .collection fun _ hMem => nomatch hMem
    · exact .collection (forall_of_readList hMember hItems)

theorem made_of_readGeometry {levels : ℕ} {ts rest : List Wkt.Token} {g : Geometry}
    (h : Wkt.readGeometry levels ts = some (g, rest)) : g.Made := by
  induction levels generalizing ts rest g with
  | zero => exact absurd h (by simp [Wkt.readGeometry])
  | succ levels ih =>
    unfold Wkt.readGeometry at h
    split at h
    · next hLevels =>
      obtain rfl := Nat.succ.inj hLevels
      split at h
      · exact absurd h (by simp)
      · split at h
        · exact absurd h (by simp)
        · exact made_of_readKind (fun _ _ _ => ih) h
    · exact absurd h (by simp)

/-- A text is accepted if it nests no deeper than is allowed and starts with a geometry, and this is
    finite. -/
theorem ofWkt_eq_ok {text : String} {g : Geometry} :
    ofWkt text = .ok g ↔ Wkt.deepest 0 (Text.trimmed text.toList) ≤ Wkt.maxDepth ∧
      (∃ rest, Wkt.readGeometry (Wkt.maxDepth + 1) (Wkt.tokens (Text.trimmed text.toList))
        = some (g, rest)) ∧ g.isFinite = true := by
  unfold ofWkt
  dsimp only
  split
  · next hDeep => simp [Nat.not_le.2 hDeep]
  · next hDepth =>
    split
    · next hNone => simp [hNone]
    · next g' rest hRead =>
      rw [hRead]
      split
      · next hFinite =>
        constructor
        · intro hOk
          obtain rfl := Except.ok.inj hOk
          exact ⟨Nat.not_lt.1 hDepth, ⟨rest, rfl⟩, hFinite⟩
        · rintro ⟨-, ⟨rest', hSome⟩, -⟩
          rw [(Prod.mk.inj (Option.some.inj hSome)).1]
      · next hInfinite =>
        constructor
        · exact fun hOk => nomatch hOk
        · rintro ⟨-, ⟨rest', hSome⟩, hFinite⟩
          obtain ⟨rfl, -⟩ := Prod.mk.inj (Option.some.inj hSome)
          exact absurd hFinite hInfinite

theorem ofWkt_of_deep {text : String}
    (h : Wkt.maxDepth < Wkt.deepest 0 (Text.trimmed text.toList)) :
    ofWkt text = .error .tooDeep := by
  unfold ofWkt
  exact if_pos h

/-- What a text is read as has finite coordinates and was made by reading. -/
theorem made_of_ofWkt {text : String} {g : Geometry} (h : ofWkt text = .ok g) :
    g.Finite ∧ g.Made := by
  obtain ⟨-, ⟨rest, hRead⟩, hFinite⟩ := ofWkt_eq_ok.1 h
  exact ⟨(isFinite_iff g).1 hFinite, made_of_readGeometry hRead⟩

/-- What is read is finite and has only parts of the kinds that have a word. -/
theorem finite_of_ofWkt {text : String} {g : Geometry} (h : ofWkt text = .ok g) :
    g.Finite ∧ g.Plain := by
  obtain ⟨hFinite, hMade⟩ := made_of_ofWkt h
  exact ⟨hFinite, hMade.plain⟩

theorem isRect_of_same {g h : Geometry} (hSame : g.same h = true) : h.isRect = g.isRect := by
  cases g <;> cases h <;> first | rfl | exact absurd hSame (by simp [same])

/-- A geometry that reads back is finite and is not a rectangle. -/
theorem ReadsBack.finite {g : Geometry} (h : g.ReadsBack) : g.Finite ∧ g.isRect = false := by
  obtain ⟨g', hRead, hSame⟩ := h
  obtain ⟨hFinite, hPlain⟩ := finite_of_ofWkt hRead
  exact ⟨finite_of_same g' g hSame hFinite, (isRect_of_same hSame).trans hPlain.isRect⟩

end Geometry

end GeoFilter
