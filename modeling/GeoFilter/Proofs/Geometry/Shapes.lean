import GeoFilter.Proofs.Geometry.Reading
import GeoFilter.Proofs.Printer.Geometry

set_option autoImplicit false

/-! # Reading written paths and polygons

Positions, paths and polygons are read back as they were written, but for empty parts: a path
without positions inside a polygon or a list of paths is written as an empty pair of parentheses,
which is refused, and a polygon whose outer ring is empty is written without it, so that its first
hole is read as the outer ring. -/

namespace GeoFilter

/-! ## Rings -/

/-- A ring of finite positions is closed once and stays as it is. -/
theorem Path.closed_closed {p : Path} (h : p.closed.Finite) : p.closed.closed = p.closed := by
  cases p with
  | nil => rfl
  | cons first rest =>
    rw [closed] at h ⊢
    split
    · next hEnd => rw [closed, if_pos hEnd]
    · next hOpen =>
      rw [if_neg hOpen] at h
      have hSame := Coord.same_self_of_isFinite (h first List.mem_cons_self)
      have hLast : (first :: (rest ++ [first])).getLastD first = first := by
        rw [← List.cons_append, List.getLastD_concat]
      rw [closed, hLast, if_pos hSame]

theorem Path.closed_ne_nil {p : Path} (h : p ≠ []) : p.closed ≠ [] := by
  cases p with
  | nil => exact absurd rfl h
  | cons first rest =>
    rw [closed]
    split <;> exact List.cons_ne_nil _ _

namespace Polygon

/-- No ring is empty, except that a polygon may be empty as a whole. -/
def Whole (shape : Polygon) : Prop :=
  (shape.exterior = [] → shape.interiors = []) ∧ ∀ ring ∈ shape.interiors, ring ≠ []

/-- A polygon that was made of rings is made of the rings that are written for it. -/
theorem ofRings_rings {shape : Polygon} (hFinite : shape.Finite)
    (hRings : ∃ paths, shape = ofRings paths)
    (hWhole : shape.exterior = [] → shape.interiors = []) :
    ofRings (Wkt.rings shape) = shape := by
  have hClosed : shape.exterior.closed = shape.exterior ∧
      shape.interiors.map Path.closed = shape.interiors := by
    obtain ⟨paths, rfl⟩ := hRings
    cases paths with
    | nil => exact ⟨rfl, rfl⟩
    | cons exterior interiors =>
      refine ⟨Path.closed_closed hFinite.1, ?_⟩
      rw [ofRings, List.map_map]
      refine List.map_congr_left ?_
      intro path hPath
      exact Path.closed_closed (hFinite.2 _ (List.mem_map_of_mem hPath))
  obtain ⟨exterior, interiors⟩ := shape
  cases exterior with
  | nil =>
    obtain rfl : interiors = [] := hWhole rfl
    rfl
  | cons first rest =>
    rw [Wkt.rings, if_neg (by simp), ofRings, hClosed.1, hClosed.2]

end Polygon

namespace Wkt

/-! ## Positions -/

theorem readCoord_tokens (c : Coord) (ts : List Token) :
    readCoord 0 (.number c.x :: .number c.y :: ts) = some (c, ts) := rfl

theorem reads_coord {c : Coord} (h : c.isFinite = true) : Reads (readCoord 0) (coordText c) c := by
  constructor
  · intro more hMore
    rw [tokens_coordText h hMore, readCoord_tokens]
  · intro more hMore
    rw [tokens_coordText h hMore, List.length_cons, List.length_cons]
    omega

/-- A point of a multi-point, in parentheses of its own. -/
theorem reads_member {c : Coord} (h : c.isFinite = true) :
    Reads (readMember 0) (group [coordText c]) c := by
  refine ⟨?_, ((reads_coord h).enclosed c).shorter⟩
  intro more _
  rw [tokens_group, commas, tokens_coordText h (endsRun_cons rfl more)]
  rfl

/-- A point of a multi-point without parentheses of its own. -/
theorem reads_bareMember {c : Coord} (h : c.isFinite = true) :
    Reads (readMember 0) (coordText c) c := by
  refine ⟨?_, (reads_coord h).shorter⟩
  intro more hMore
  rw [tokens_coordText h hMore]
  rfl

/-! ## Paths -/

theorem reads_path {path : Path} (hFinite : path.Finite) (hNe : path ≠ []) :
    Reads (readPath 0) (pathText path) path :=
  reads_group hNe fun c hc => reads_coord (hFinite c hc)

/-- An empty pair of parentheses is no path. -/
theorem misreads_path (bad : Path → Path → Prop) : Misreads bad (readPath 0) (pathText []) [] := by
  intro more _ path rest hRead
  rw [pathText, List.map_nil, tokens_group, readPath, readBody_opening] at hRead
  obtain ⟨c, others, rest', -, hCoord⟩ := exists_of_readList hRead
  exact nomatch hCoord

theorem reads_or_misreads_path (bad : Path → Path → Prop) {path : Path} (hFinite : path.Finite) :
    Reads (readPath 0) (pathText path) path ∨ Misreads bad (readPath 0) (pathText path) path := by
  by_cases hNe : path = []
  · subst hNe
    exact .inr (misreads_path bad)
  · exact .inl (reads_path hFinite hNe)

/-- A path that is read from parentheses has a position. -/
theorem ne_nil_of_readPath {ts rest : List Token} {path : Path}
    (h : readPath 0 (.opening :: ts) = some (path, rest)) : path ≠ [] := by
  rw [readPath, readBody_opening] at h
  obtain ⟨c, others, rest', rfl, -⟩ := exists_of_readList h
  exact List.cons_ne_nil c others

/-! ## Polygons -/

theorem reads_polygon {shape : Polygon} (hFinite : shape.Finite)
    (hRings : ∃ paths, shape = .ofRings paths) (hWhole : shape.Whole) :
    Reads (readPolygon 0) (bodyText ((rings shape).map pathText)) shape := by
  have hNe : ∀ ring ∈ rings shape, ring ≠ [] := by
    unfold rings
    split
    · exact hWhole.2
    · next hSome => exact List.forall_mem_cons.2 ⟨by simpa using hSome, hWhole.2⟩
  have hReads := reads_bodyText fun ring hMem =>
    reads_path (finite_of_rings hFinite ring hMem) (hNe ring hMem)
  have hShape := hReads.map Polygon.ofRings
  rwa [Polygon.ofRings_rings hFinite hRings hWhole.1] at hShape

/-- Without its outer ring a polygon is read as one whose outer ring is its first hole. -/
theorem misreads_holes {shape : Polygon} (hExterior : shape.exterior = [])
    (hInteriors : shape.interiors ≠ []) :
    Misreads (fun p q => p.same q = false) (readPolygon 0)
      (bodyText ((rings shape).map pathText)) shape := by
  have hRings : rings shape = shape.interiors := by rw [rings, hExterior]; rfl
  obtain ⟨hole, holes, hHoles⟩ := List.exists_cons_of_ne_nil hInteriors
  rw [hRings, hHoles, bodyText_of_ne (by simp)]
  intro more hMore p rest hRead
  obtain ⟨⟨paths, rest'⟩, hBody, hPair⟩ := Option.map_eq_some_iff.1 hRead
  obtain ⟨rfl, rfl⟩ := Prod.mk.inj hPair
  rw [tokens_group, readBody_opening] at hBody
  obtain ⟨first, others, rest'', rfl, hFirst⟩ := exists_of_readList hBody
  have hClosing : EndsRun (')' :: more) := endsRun_cons rfl more
  obtain ⟨after, -, hText⟩ := exists_commas pathText hole holes hClosing
  rw [hText, pathText, tokens_group] at hFirst
  obtain ⟨c, cs, hClosed⟩ := List.exists_cons_of_ne_nil
    (Path.closed_ne_nil (ne_nil_of_readPath hFirst))
  have hOuter : Path.same first.closed [] = false := by
    rw [hClosed]
    rfl
  rw [Polygon.same, hExterior, Polygon.ofRings, hOuter, Bool.false_and]

/-- A polygon with an empty hole is not read. -/
theorem misreads_emptyHole {shape : Polygon} (hFinite : shape.Finite)
    (hExterior : shape.exterior ≠ []) (hHole : [] ∈ shape.interiors) :
    Misreads (fun p q => p.same q = false) (readPolygon 0)
      (bodyText ((rings shape).map pathText)) shape := by
  have hRings : rings shape = shape.exterior :: shape.interiors := by
    rw [rings, if_neg (by simpa using hExterior)]
  have hMem : [] ∈ rings shape := by
    rw [hRings]
    exact List.mem_cons_of_mem _ hHole
  have hPaths := fun path hPath =>
    reads_or_misreads_path (fun _ _ => False) (finite_of_rings hFinite path hPath)
  rw [bodyText_of_ne (by simp [hRings])]
  exact (misreads_group hPaths ⟨[], hMem, misreads_path _⟩).map fun paths hDiffer =>
    absurd hDiffer not_differ_false

theorem misreads_polygon {shape : Polygon} (hFinite : shape.Finite) (hBroken : ¬ shape.Whole) :
    Misreads (fun p q => p.same q = false) (readPolygon 0)
      (bodyText ((rings shape).map pathText)) shape := by
  by_cases hExterior : shape.exterior = []
  · refine misreads_holes hExterior ?_
    intro hNil
    refine hBroken ⟨fun _ => hNil, ?_⟩
    rw [hNil]
    exact fun _ hMem => nomatch hMem
  · refine misreads_emptyHole hFinite hExterior ?_
    by_contra hNone
    refine hBroken ⟨fun hNil => absurd hNil hExterior, ?_⟩
    rintro ring hMem rfl
    exact hNone hMem

/-- A polygon of a multi-polygon is written as one of its own, unless it has no rings. -/
theorem polygonText_eq {shape : Polygon} (h : rings shape ≠ []) :
    polygonText shape = bodyText ((rings shape).map pathText) := by
  rw [polygonText, if_neg (by simpa using h), bodyText_of_ne (by simpa using h)]

theorem rings_ne_nil {shape : Polygon} (h : shape.exterior ≠ []) : rings shape ≠ [] := by
  rw [rings, if_neg (by simpa using h)]
  exact List.cons_ne_nil _ _

theorem reads_polygonText {shape : Polygon} (hFinite : shape.Finite)
    (hRings : ∃ paths, shape = .ofRings paths) (hExterior : shape.exterior ≠ [])
    (hWhole : shape.Whole) : Reads (readPolygon 0) (polygonText shape) shape := by
  rw [polygonText_eq (rings_ne_nil hExterior)]
  exact reads_polygon hFinite hRings hWhole

theorem misreads_polygonText {shape : Polygon} (hFinite : shape.Finite)
    (hBroken : ¬ (shape.exterior ≠ [] ∧ shape.Whole)) :
    Misreads (fun p q => p.same q = false) (readPolygon 0) (polygonText shape) shape := by
  by_cases hRings : rings shape = []
  -- An empty ring is written, and is no path.
  · have hText : polygonText shape = group ([[]].map pathText) := by rw [polygonText, hRings]; rfl
    have hPaths : ∀ path ∈ [[]], Reads (readPath 0) (pathText path) path ∨
        Misreads (fun _ _ => False) (readPath 0) (pathText path) path := by
      intro path hMem
      rw [List.mem_singleton.1 hMem]
      exact .inr (misreads_path _)
    rw [hText]
    exact (misreads_group hPaths ⟨[], List.mem_singleton_self _, misreads_path _⟩).map
      fun paths hDiffer => absurd hDiffer not_differ_false
  · rw [polygonText_eq hRings]
    by_cases hExterior : shape.exterior = []
    · refine misreads_holes hExterior ?_
      rwa [rings, hExterior] at hRings
    · exact misreads_polygon hFinite fun hWhole => hBroken ⟨hExterior, hWhole⟩

end Wkt

end GeoFilter
