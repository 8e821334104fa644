import GeoFilter.Proofs.Comparison
import GeoFilter.Proofs.Geometry.Nesting
import GeoFilter.Proofs.Geometry.Shapes

set_option autoImplicit false

/-! # Geometries that were read, written and read again

A geometry that was read is written as text that is read as the same geometry, unless it has an
empty part or its text nests too deep. Both can happen to text that was accepted: EMPTY may stand
for a part, and the points of a multi-point may stand without parentheses, in which they are
written. -/

namespace GeoFilter

open Wkt

/-! ## Empty parts -/

namespace Geometry

mutual

/-- No part is empty. A geometry may be empty as a whole, as may a member of a collection. -/
def NoEmptyParts : Geometry → Prop
  | polygon shape => shape.Whole
  | multiLineString paths => ∀ path ∈ paths, path ≠ []
  | multiPolygon shapes => ∀ shape ∈ shapes, shape.exterior ≠ [] ∧ Polygon.Whole shape
  | collection members => NoEmptyMembers members
  | point _ | line _ _ | lineString _ | multiPoint _ | rect _ _ | triangle _ _ _ => True

/-- No member of a collection has an empty part. -/
def NoEmptyMembers : List Geometry → Prop
  | [] => True
  | member :: rest => member.NoEmptyParts ∧ NoEmptyMembers rest

end

theorem noEmptyMembers_iff {gs : List Geometry} :
    NoEmptyMembers gs ↔ ∀ g ∈ gs, g.NoEmptyParts := by
  induction gs with
  | nil => simp [NoEmptyMembers]
  | cons g gs ih => simp [NoEmptyMembers, ih]

theorem memberChars_eq_map (gs : List Geometry) : memberChars gs = gs.map wktChars := by
  induction gs with
  | nil => rfl
  | cons g gs ih => rw [memberChars, ih, List.map_cons]

end Geometry

/-! ## Reading what was written -/

namespace Wkt

/-- After the word for its type a geometry is read as its kind, in two dimensions. -/
theorem readGeometry_tagged {kind : Kind} (hKind : kind ≠ .linearRing) (levels : ℕ)
    (parts : List (List Char)) {more : List Char} (hMore : EndsRun more) :
    readGeometry (levels + 1) (tokens (tagged kind.word parts ++ more))
      = readKind (readGeometry levels) 0 (tokens (bodyText parts ++ more)) kind := by
  have hWord : Kind.ofWord kind.word = some (kind, none) := by
    cases kind <;> first | exact absurd rfl hKind | decide
  have hDimension : readDimension none (tokens (bodyText parts ++ more))
      = some (0, tokens (bodyText parts ++ more)) := by
    unfold bodyText
    split
    · rw [tokens_empty hMore]
      rfl
    · rw [tokens_group]
      rfl
  rw [tagged_eq, List.append_assoc, tokens_word kind (endsRun_bodyText parts more), readGeometry]
  simp only [hWord, hDimension]

variable {levels : ℕ} {parts : List (List Char)} {g : Geometry}

theorem Reads.tagged (kind : Kind) (hKind : kind ≠ .linearRing)
    (h : Reads (fun ts => readKind (readGeometry levels) 0 ts kind) (bodyText parts) g) :
    Reads (readGeometry (levels + 1)) (tagged kind.word parts) g := by
  constructor
  · intro more hMore
    rw [readGeometry_tagged hKind levels parts hMore]
    exact h.step more hMore
  · intro more hMore
    have hShorter := h.shorter more hMore
    rw [tagged_eq, List.append_assoc, tokens_word kind (endsRun_bodyText parts more),
      List.length_cons]
    omega

theorem Misreads.tagged {bad : Geometry → Geometry → Prop} (kind : Kind)
    (hKind : kind ≠ .linearRing)
    (h : Misreads bad (fun ts => readKind (readGeometry levels) 0 ts kind) (bodyText parts) g) :
    Misreads bad (readGeometry (levels + 1)) (tagged kind.word parts) g := by
  intro more hMore g' rest hRead
  rw [readGeometry_tagged hKind levels parts hMore] at hRead
  exact h more hMore g' rest hRead

end Wkt

namespace Geometry

/-- A geometry without empty parts is read as it was written. -/
theorem reads_wktChars {g : Geometry} (hMade : g.Made) (hFinite : g.Finite)
    (hParts : g.NoEmptyParts) {levels : ℕ} (hLevels : g.nesting ≤ levels) :
    Reads (readGeometry (levels + 1)) g.wktChars g := by
  induction hMade generalizing levels with
  | point position =>
    refine Reads.tagged .point (by decide) ?_
    exact ((reads_coord hFinite).map Geometry.point).enclosed (.multiPoint [])
  | lineString path =>
    refine Reads.tagged .lineString (by decide) ?_
    exact (reads_bodyText fun c hc => reads_coord (hFinite c hc)).map Geometry.lineString
  | polygon hRings =>
    refine Reads.tagged .polygon (by decide) ?_
    exact (reads_polygon hFinite hRings hParts).map Geometry.polygon
  | multiPoint positions =>
    refine Reads.tagged .multiPoint (by decide) ?_
    exact (reads_bodyText fun c hc => reads_member (hFinite c hc)).map Geometry.multiPoint
  | multiLineString paths =>
    refine Reads.tagged .multiLineString (by decide) ?_
    have hPaths := fun path hMem => reads_path (hFinite path hMem) (hParts path hMem)
    exact (reads_bodyText hPaths).map Geometry.multiLineString
  | multiPolygon hRings =>
    refine Reads.tagged .multiPolygon (by decide) ?_
    have hShapes := fun shape hMem =>
      reads_polygonText (hFinite shape hMem) (hRings shape hMem) (hParts shape hMem).1
        (hParts shape hMem).2
    exact (reads_bodyText hShapes).map Geometry.multiPolygon
  | @collection members hMembers ih =>
    rw [wktChars, memberChars_eq_map]
    refine Reads.tagged .collection (by decide) ?_
    have hItems : ∀ member ∈ members, Reads (readGeometry levels) member.wktChars member := by
      intro member hMem
      obtain ⟨levels, rfl, hMember⟩ := exists_level_of_mem hMem hLevels
      exact ih member hMem (finiteMembers_iff.1 hFinite member hMem)
        (noEmptyMembers_iff.1 hParts member hMem) hMember
    exact (reads_bodyText hItems).map Geometry.collection

theorem sameMembers_eq (gs hs : List Geometry) : sameMembers gs hs = sameLists same gs hs := by
  induction gs generalizing hs with
  | nil => cases hs <;> rfl
  | cons g gs ih =>
    cases hs with
    | nil => rfl
    | cons h hs => rw [sameMembers, sameLists, ih]

/-- Lists of parts of which one was misread, made into geometries. -/
theorem misreads_parts {α : Type} {item : List Token → Step α} {text : α → List Char}
    {same : α → α → Bool} (make : List α → Geometry) {as : List α}
    (hMake : ∀ as', (make as').same (make as) = sameLists same as' as)
    (h : ∀ a ∈ as, Reads item (text a) a ∨
      Misreads (fun a' a => same a' a = false) item (text a) a)
    (hSome : ∃ a ∈ as, Misreads (fun a' a => same a' a = false) item (text a) a) :
    Misreads (fun g' g => g'.same g = false)
      (fun ts => Step.into make (readBody [] (readItems item) ts)) (bodyText (as.map text))
      (make as) := by
  have hNe : as ≠ [] := by
    rintro rfl
    obtain ⟨a, hMem, -⟩ := hSome
    exact nomatch hMem
  rw [bodyText_of_ne (mt List.map_eq_nil_iff.1 hNe)]
  exact (misreads_group h hSome).map fun as' hDiffer => (hMake as').trans hDiffer.sameLists

/-- A geometry with an empty part is not read as an equal one. -/
theorem misreads_wktChars {g : Geometry} (hMade : g.Made) (hFinite : g.Finite)
    (hParts : ¬ g.NoEmptyParts) {levels : ℕ} (hLevels : g.nesting ≤ levels) :
    Misreads (fun g' g => g'.same g = false) (readGeometry (levels + 1)) g.wktChars g := by
  induction hMade generalizing levels with
  | point | lineString | multiPoint => exact absurd trivial hParts
  | polygon hRings =>
    refine Misreads.tagged .polygon (by decide) ?_
    exact (misreads_polygon hFinite hParts).map fun _ hSame => hSame
  | multiLineString paths =>
    refine Misreads.tagged .multiLineString (by decide) ?_
    obtain ⟨path, hMem, rfl⟩ : ∃ path ∈ paths, path = [] := by
      simpa only [NoEmptyParts, not_forall, exists_prop, not_not] using hParts
    exact misreads_parts .multiLineString (fun _ => rfl)
      (fun path hPath => reads_or_misreads_path _ (hFinite path hPath))
      ⟨[], hMem, misreads_path _⟩
  | @multiPolygon shapes hRings =>
    refine Misreads.tagged .multiPolygon (by decide) ?_
    obtain ⟨shape, hMem, hBroken⟩ :
        ∃ shape ∈ shapes, ¬ (shape.exterior ≠ [] ∧ Polygon.Whole shape) := by
      simpa only [NoEmptyParts, not_forall, exists_prop] using hParts
    refine misreads_parts .multiPolygon (fun _ => rfl) ?_
      ⟨shape, hMem, misreads_polygonText (hFinite shape hMem) hBroken⟩
    intro shape hMem
    by_cases hWhole : shape.exterior ≠ [] ∧ Polygon.Whole shape
    · exact .inl (reads_polygonText (hFinite shape hMem) (hRings shape hMem) hWhole.1 hWhole.2)
    · exact .inr (misreads_polygonText (hFinite shape hMem) hWhole)
  | @collection members hMembers ih =>
    rw [wktChars, memberChars_eq_map]
    refine Misreads.tagged .collection (by decide) ?_
    have hItem : ∀ member ∈ members, ¬ member.NoEmptyParts →
        Misreads (fun g' g => g'.same g = false) (readGeometry levels) member.wktChars member := by
      intro member hMem hBroken
      obtain ⟨levels, rfl, hMember⟩ := exists_level_of_mem hMem hLevels
      exact ih member hMem (finiteMembers_iff.1 hFinite member hMem) hBroken hMember
    obtain ⟨member, hMem, hBroken⟩ : ∃ member ∈ members, ¬ member.NoEmptyParts := by
      simpa only [NoEmptyParts, noEmptyMembers_iff, not_forall, exists_prop] using hParts
    refine misreads_parts .collection (fun as' => sameMembers_eq as' members) ?_
      ⟨member, hMem, hItem member hMem hBroken⟩
    intro member hMem
    by_cases hWhole : member.NoEmptyParts
    · obtain ⟨levels, rfl, hMember⟩ := exists_level_of_mem hMem hLevels
      exact .inl (reads_wktChars (hMembers member hMem) (finiteMembers_iff.1 hFinite member hMem)
        hWhole hMember)
    · exact .inr (hItem member hMem hWhole)

/-! ## Whole texts -/

/-- Written text has no blanks at its ends. -/
theorem trimmed_tagged {word : String} (hWord : word ∈ Cql.geometryWords)
    (parts : List (List Char)) : Text.trimmed (tagged word parts) = tagged word parts := by
  obtain ⟨kind, rfl⟩ := exists_kind_of_mem hWord
  unfold tagged
  split
  · exact trimmed_kind kind (by decide : Text.isBlank 'Y' = false) " EMPT".toList
  · exact trimmed_kind kind (by decide : Text.isBlank ')' = false) ('(' :: commas parts)

theorem ofWkt_of_reads {cs : List Char} {n : ℕ} {g : Geometry} (hTrimmed : Text.trimmed cs = cs)
    (hNests : Nests cs n) (hDepth : n ≤ maxDepth) (h : Reads (readGeometry (maxDepth + 1)) cs g)
    (hFinite : g.Finite) : ofWkt (String.ofList cs) = .ok g := by
  have hRead := h.step [] endsRun_nil
  rw [List.append_nil] at hRead
  rw [ofWkt_eq_ok, String.toList_ofList, hTrimmed, hNests.deepest]
  exact ⟨hDepth, ⟨_, hRead⟩, (isFinite_iff g).2 hFinite⟩

theorem Finite.same_self {g : Geometry} (h : g.Finite) : g.same g = true := by
  rw [Geometry.same_self, List.all_eq_true]
  exact fun c hc => Coord.same_self_of_isFinite ((coords_finite_iff g).2 h c hc)

theorem trimmed_wktChars {g : Geometry} (h : g.Finite) :
    Text.trimmed g.wktChars = g.wktChars := by
  obtain ⟨word, parts, hWord, -, hText⟩ := isTagged_wktChars g h
  rw [hText, trimmed_tagged hWord]

/-- Written text that nests too deep is refused. -/
theorem ofWkt_toWkt_of_deep {g : Geometry} (hFinite : g.Finite) (hDepth : maxDepth < g.nesting) :
    ofWkt g.toWkt = .error .tooDeep := by
  refine ofWkt_of_deep ?_
  rwa [toWkt, String.toList_ofList, trimmed_wktChars hFinite, (nests_wktChars g hFinite).deepest]

/-- A geometry without empty parts comes back as it was, the signs of zeros included. -/
theorem ofWkt_toWkt_of_noEmptyParts {g : Geometry} (hMade : g.Made) (hFinite : g.Finite)
    (hDepth : g.nesting ≤ maxDepth) (hParts : g.NoEmptyParts) : ofWkt g.toWkt = .ok g :=
  ofWkt_of_reads (trimmed_wktChars hFinite) (nests_wktChars g hFinite) hDepth
    (reads_wktChars hMade hFinite hParts hDepth) hFinite

/-- A geometry with an empty part is refused, or comes back as another one. -/
theorem not_same_of_emptyParts {g g' : Geometry} (hMade : g.Made) (hFinite : g.Finite)
    (hDepth : g.nesting ≤ maxDepth) (hParts : ¬ g.NoEmptyParts) (hRead : ofWkt g.toWkt = .ok g') :
    g'.same g = false := by
  have hMisreads := misreads_wktChars hMade hFinite hParts hDepth [] endsRun_nil
  rw [List.append_nil] at hMisreads
  rw [toWkt, ofWkt_eq_ok, String.toList_ofList, trimmed_wktChars hFinite] at hRead
  obtain ⟨-, ⟨rest, hTokens⟩, -⟩ := hRead
  exact hMisreads g' rest hTokens

/-! ## A multi-point without parentheses -/

/-- A multi-point in collections around each other. -/
def nested : ℕ → Geometry
  | 0 => .multiPoint [⟨0, 0⟩]
  | n + 1 => .collection [nested n]

/-- The text of a multi-point in collections around each other, whose point stands without
    parentheses. -/
def nestedChars : ℕ → List Char
  | 0 => "MULTIPOINT(0 0)".toList
  | n + 1 => "GEOMETRYCOLLECTION(".toList ++ (nestedChars n ++ [')'])

theorem origin_finite : Coord.isFinite ⟨0, 0⟩ = true := by decide +kernel

theorem nested_finite (n : ℕ) : (nested n).Finite := by
  induction n with
  | zero =>
    intro c hc
    rw [List.mem_singleton.1 hc]
    exact origin_finite
  | succ n ih => exact ⟨ih, trivial⟩

theorem nested_noEmptyParts (n : ℕ) : (nested n).NoEmptyParts := by
  induction n with
  | zero => trivial
  | succ n ih => exact ⟨ih, trivial⟩

/-- The written text has the parentheses of the point as well. -/
theorem nesting_nested (n : ℕ) : (nested n).nesting = n + 2 := by
  induction n with
  | zero => rfl
  | succ n ih =>
    rw [nested, nesting, deepestMember, deepestMember, ih]
    simp
    omega

theorem nestedChars_zero : nestedChars 0 = tagged "MULTIPOINT" [coordText ⟨0, 0⟩] := by
  decide +kernel

theorem nestedChars_succ (n : ℕ) :
    nestedChars (n + 1) = tagged "GEOMETRYCOLLECTION" [nestedChars n] := rfl

theorem trimmed_nestedChars (n : ℕ) : Text.trimmed (nestedChars n) = nestedChars n := by
  cases n with
  | zero => rw [nestedChars_zero, trimmed_tagged (by decide)]
  | succ n => rw [nestedChars_succ, trimmed_tagged (by decide)]

theorem nests_nestedChars (n : ℕ) : Nests (nestedChars n) (n + 1) := by
  induction n with
  | zero =>
    rw [nestedChars_zero]
    exact (PartsNest.cons (nests_coordText origin_finite) .nil).tagged .multiPoint
  | succ n ih =>
    rw [nestedChars_succ, Nat.add_comm]
    exact (PartsNest.cons ih .nil).tagged .collection

theorem reads_nestedChars {n levels : ℕ} (h : n ≤ levels) :
    Reads (readGeometry (levels + 1)) (nestedChars n) (nested n) := by
  induction n generalizing levels with
  | zero =>
    rw [nestedChars_zero]
    refine Reads.tagged .multiPoint (by decide) ?_
    have hPoints : ∀ c ∈ [⟨0, 0⟩], Reads (readMember 0) (coordText c) c := by
      intro c hc
      rw [List.mem_singleton.1 hc]
      exact reads_bareMember origin_finite
    exact (reads_bodyText hPoints).map Geometry.multiPoint
  | succ n ih =>
    obtain ⟨levels, rfl⟩ : ∃ levels', levels = levels' + 1 := ⟨levels - 1, by omega⟩
    rw [nestedChars_succ]
    refine Reads.tagged .collection (by decide) ?_
    have hMembers : ∀ g ∈ [nested n], Reads (readGeometry (levels + 1)) (nestedChars n) g := by
      intro g hg
      rw [List.mem_singleton.1 hg]
      exact ih (by omega)
    exact (reads_bodyText hMembers).map Geometry.collection

theorem ofWkt_nestedChars {n : ℕ} (h : n < maxDepth) :
    ofWkt (String.ofList (nestedChars n)) = .ok (nested n) :=
  ofWkt_of_reads (trimmed_nestedChars n) (nests_nestedChars n) h
    (reads_nestedChars (Nat.le_of_lt h)) (nested_finite n)

/-! ## Reading again -/

/-- A geometry that was read is read again as an equal one, from the text it is written as, exactly
    if this text nests no deeper than is allowed and no part of the geometry is empty. -/
theorem ofWkt_toWkt_iff {text : String} {g : Geometry} (h : ofWkt text = .ok g) :
    g.ReadsBack ↔ g.nesting ≤ maxDepth ∧ g.NoEmptyParts := by
  obtain ⟨hFinite, hMade⟩ := made_of_ofWkt h
  constructor
  · rintro ⟨g', hRead, hSame⟩
    by_cases hDepth : g.nesting ≤ maxDepth
    · refine ⟨hDepth, by_contra fun hParts => ?_⟩
      rw [not_same_of_emptyParts hMade hFinite hDepth hParts hRead] at hSame
      exact absurd hSame Bool.false_ne_true
    · rw [ofWkt_toWkt_of_deep hFinite (Nat.not_le.1 hDepth)] at hRead
      exact absurd hRead (by simp)
  · rintro ⟨hDepth, hParts⟩
    exact ⟨g, ofWkt_toWkt_of_noEmptyParts hMade hFinite hDepth hParts, hFinite.same_self⟩

/-- A point without parentheses is written with them, and read again. -/
theorem ofWkt_toWkt_iff_multiPoint :
    ofWkt "MULTIPOINT(0 0)" = .ok (nested 0) ∧ (nested 0).ReadsBack := by
  have hRead : ofWkt "MULTIPOINT(0 0)" = .ok (nested 0) := by
    have hText : String.ofList (nestedChars 0) = "MULTIPOINT(0 0)" := String.ofList_toList
    rw [← hText]
    exact ofWkt_nestedChars (by decide)
  refine ⟨hRead, (ofWkt_toWkt_iff hRead).2 ⟨?_, trivial⟩⟩
  rw [nesting_nested]
  decide

/-- With sixty-three collections around it, the text of the multi-point is read, and what is
    written then is too deep. -/
theorem nested_not_read_again :
    ofWkt (String.ofList (nestedChars 63)) = .ok (nested 63) ∧ (nested 63).NoEmptyParts ∧
      ofWkt (nested 63).toWkt = .error .tooDeep := by
  refine ⟨ofWkt_nestedChars (by decide), nested_noEmptyParts 63, ?_⟩
  refine ofWkt_toWkt_of_deep (nested_finite 63) ?_
  rw [nesting_nested]
  decide

end Geometry

end GeoFilter
