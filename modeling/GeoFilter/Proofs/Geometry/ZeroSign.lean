import GeoFilter.Planar.Figure
import GeoFilter.Proofs.Geometry.ReadBack
import GeoFilter.Proofs.Number.ZeroSign

set_option autoImplicit false

/-! # Equal geometries are one set of points

Geometries that are equal differ in the signs of zeros at most. These signs are not seen by the
equality of geometries, by the test for finite coordinates, or by the set of points that a geometry
stands for. -/

namespace GeoFilter

/-! ## Coordinates -/

namespace Coord

theorem same_withoutZeroSigns (a b : Coord) :
    a.withoutZeroSigns.same b.withoutZeroSigns = a.same b := by
  simp only [same, withoutZeroSigns, Number.withoutZeroSign_beq_withoutZeroSign]

theorem withoutZeroSigns_of_same {a b : Coord} (h : a.same b = true) :
    a.withoutZeroSigns = b.withoutZeroSigns := by
  rw [same, Bool.and_eq_true] at h
  rw [withoutZeroSigns, Number.withoutZeroSign_eq_of_beq h.1,
    Number.withoutZeroSign_eq_of_beq h.2, withoutZeroSigns]

theorem isFinite_withoutZeroSigns (c : Coord) : c.withoutZeroSigns.isFinite = c.isFinite := by
  simp only [isFinite, withoutZeroSigns, Number.isFinite_withoutZeroSign]

end Coord

theorem Planar.Point.ofCoord_withoutZeroSigns (c : Coord) :
    Point.ofCoord c.withoutZeroSigns = .ofCoord c := by
  simp only [Point.ofCoord, Coord.withoutZeroSigns, Number.toRat_withoutZeroSign]

/-! ## Lists -/

section

variable {α β : Type} {same : α → α → Bool}

theorem sameLists_map (f : α → α) (h : ∀ a b, same (f a) (f b) = same a b) (as bs : List α) :
    sameLists same (as.map f) (bs.map f) = sameLists same as bs := by
  induction as generalizing bs with
  | nil => cases bs <;> rfl
  | cons a as ih =>
    cases bs with
    | nil => rfl
    | cons b bs => rw [List.map_cons, List.map_cons, sameLists, h, ih, sameLists]

theorem map_eq_of_sameLists (f : α → β) (h : ∀ a b, same a b = true → f a = f b) {as bs : List α}
    (hSame : sameLists same as bs = true) : as.map f = bs.map f := by
  induction as generalizing bs with
  | nil =>
    cases bs with
    | nil => rfl
    | cons b bs => exact absurd hSame (by simp [sameLists])
  | cons a as ih =>
    cases bs with
    | nil => exact absurd hSame (by simp [sameLists])
    | cons b bs =>
      rw [sameLists, Bool.and_eq_true] at hSame
      rw [List.map_cons, List.map_cons, h a b hSame.1, ih hSame.2]

end

/-! ## Paths and polygons -/

/-- The path without the signs of zeros. -/
def Path.withoutZeroSigns : Path → Path := List.map Coord.withoutZeroSigns

/-- The polygon without the signs of zeros. -/
def Polygon.withoutZeroSigns (shape : Polygon) : Polygon :=
  ⟨shape.exterior.withoutZeroSigns, shape.interiors.map Path.withoutZeroSigns⟩

theorem Path.same_withoutZeroSigns (p q : Path) :
    Path.same p.withoutZeroSigns q.withoutZeroSigns = Path.same p q :=
  sameLists_map Coord.withoutZeroSigns Coord.same_withoutZeroSigns p q

theorem Path.withoutZeroSigns_of_same {p q : Path} (h : Path.same p q = true) :
    p.withoutZeroSigns = q.withoutZeroSigns :=
  map_eq_of_sameLists Coord.withoutZeroSigns (fun _ _ => Coord.withoutZeroSigns_of_same) h

theorem Polygon.same_withoutZeroSigns (p q : Polygon) :
    p.withoutZeroSigns.same q.withoutZeroSigns = p.same q := by
  rw [same, withoutZeroSigns, withoutZeroSigns, Path.same_withoutZeroSigns,
    sameLists_map Path.withoutZeroSigns Path.same_withoutZeroSigns, same]

theorem Polygon.withoutZeroSigns_of_same {p q : Polygon} (h : p.same q = true) :
    p.withoutZeroSigns = q.withoutZeroSigns := by
  rw [same, Bool.and_eq_true] at h
  rw [withoutZeroSigns, Path.withoutZeroSigns_of_same h.1, withoutZeroSigns,
    map_eq_of_sameLists Path.withoutZeroSigns (fun _ _ => Path.withoutZeroSigns_of_same) h.2]

theorem Geometry.pathPoints_withoutZeroSigns (path : Path) :
    pathPoints path.withoutZeroSigns = pathPoints path := by
  simp only [pathPoints, Path.withoutZeroSigns, List.map_map]
  exact List.map_congr_left fun c _ => Planar.Point.ofCoord_withoutZeroSigns c

theorem Geometry.polygonFigure_withoutZeroSigns (shape : Polygon) :
    polygonFigure shape.withoutZeroSigns = polygonFigure shape := by
  simp only [polygonFigure, Polygon.withoutZeroSigns, pathPoints_withoutZeroSigns, List.map_map,
    Function.comp_def]

/-! ## Geometries -/

namespace Geometry

mutual

/-- The geometry without the signs of zeros. -/
def withoutZeroSigns : Geometry → Geometry
  | point position => point position.withoutZeroSigns
  | line start finish => line start.withoutZeroSigns finish.withoutZeroSigns
  | lineString path => lineString path.withoutZeroSigns
  | polygon shape => polygon shape.withoutZeroSigns
  | multiPoint positions => multiPoint (positions.map Coord.withoutZeroSigns)
  | multiLineString paths => multiLineString (paths.map Path.withoutZeroSigns)
  | multiPolygon shapes => multiPolygon (shapes.map Polygon.withoutZeroSigns)
  | collection members => collection (membersWithoutZeroSigns members)
  | rect low high => rect low.withoutZeroSigns high.withoutZeroSigns
  | triangle a b c => triangle a.withoutZeroSigns b.withoutZeroSigns c.withoutZeroSigns

/-- The members of a collection without the signs of zeros. -/
def membersWithoutZeroSigns : List Geometry → List Geometry
  | [] => []
  | member :: rest => member.withoutZeroSigns :: membersWithoutZeroSigns rest

end

mutual

/-- The equality of geometries does not see the signs of zeros. -/
theorem same_withoutZeroSigns (g h : Geometry) :
    g.withoutZeroSigns.same h.withoutZeroSigns = g.same h := by
  cases g with
  | point | line | rect | triangle =>
    cases h <;> simp only [withoutZeroSigns, same, Coord.same_withoutZeroSigns]
  | lineString => cases h <;> simp only [withoutZeroSigns, same, Path.same_withoutZeroSigns]
  | polygon => cases h <;> simp only [withoutZeroSigns, same, Polygon.same_withoutZeroSigns]
  | multiPoint =>
    cases h <;> simp only [withoutZeroSigns, same,
      sameLists_map Coord.withoutZeroSigns Coord.same_withoutZeroSigns]
  | multiLineString =>
    cases h <;> simp only [withoutZeroSigns, same,
      sameLists_map Path.withoutZeroSigns Path.same_withoutZeroSigns]
  | multiPolygon =>
    cases h <;> simp only [withoutZeroSigns, same,
      sameLists_map Polygon.withoutZeroSigns Polygon.same_withoutZeroSigns]
  | collection members =>
    cases h with
    | collection members' => exact sameMembers_withoutZeroSigns members members'
    | _ => rfl

theorem sameMembers_withoutZeroSigns (gs hs : List Geometry) :
    sameMembers (membersWithoutZeroSigns gs) (membersWithoutZeroSigns hs) = sameMembers gs hs := by
  cases gs with
  | nil => cases hs <;> rfl
  | cons g gs =>
    cases hs with
    | nil => rfl
    | cons h hs =>
      simp only [membersWithoutZeroSigns, sameMembers, same_withoutZeroSigns g h,
        sameMembers_withoutZeroSigns gs hs]

end

mutual

theorem withoutZeroSigns_of_same : (g h : Geometry) → g.same h = true →
    g.withoutZeroSigns = h.withoutZeroSigns
  | point _, point _, h => congrArg point (Coord.withoutZeroSigns_of_same h)
  | line _ _, line _ _, h => by
    simp only [same, Bool.and_eq_true] at h
    simp only [withoutZeroSigns, Coord.withoutZeroSigns_of_same h.1,
      Coord.withoutZeroSigns_of_same h.2]
  | lineString _, lineString _, h => congrArg lineString (Path.withoutZeroSigns_of_same h)
  | polygon _, polygon _, h => congrArg polygon (Polygon.withoutZeroSigns_of_same h)
  | multiPoint _, multiPoint _, h => congrArg multiPoint (Path.withoutZeroSigns_of_same h)
  | multiLineString _, multiLineString _, h =>
    congrArg multiLineString
      (map_eq_of_sameLists Path.withoutZeroSigns (fun _ _ => Path.withoutZeroSigns_of_same) h)
  | multiPolygon _, multiPolygon _, h =>
    congrArg multiPolygon
      (map_eq_of_sameLists Polygon.withoutZeroSigns (fun _ _ => Polygon.withoutZeroSigns_of_same) h)
  | collection gs, collection hs, h =>
    congrArg collection (membersWithoutZeroSigns_of_same gs hs h)
  | rect _ _, rect _ _, h => by
    simp only [same, Bool.and_eq_true] at h
    simp only [withoutZeroSigns, Coord.withoutZeroSigns_of_same h.1,
      Coord.withoutZeroSigns_of_same h.2]
  | triangle _ _ _, triangle _ _ _, h => by
    simp only [same, Bool.and_eq_true] at h
    simp only [withoutZeroSigns, Coord.withoutZeroSigns_of_same h.1.1,
      Coord.withoutZeroSigns_of_same h.1.2, Coord.withoutZeroSigns_of_same h.2]

theorem membersWithoutZeroSigns_of_same : (gs hs : List Geometry) → sameMembers gs hs = true →
    membersWithoutZeroSigns gs = membersWithoutZeroSigns hs
  | [], [], _ => rfl
  | g :: gs, h :: hs, hSame => by
    simp only [sameMembers, Bool.and_eq_true] at hSame
    simp only [membersWithoutZeroSigns, withoutZeroSigns_of_same g h hSame.1,
      membersWithoutZeroSigns_of_same gs hs hSame.2]

end

mutual

theorem coords_withoutZeroSigns (g : Geometry) :
    g.withoutZeroSigns.coords = g.coords.map Coord.withoutZeroSigns := by
  cases g with
  | point | line | rect | triangle | lineString | multiPoint => rfl
  | polygon shape =>
    simp [withoutZeroSigns, coords, Polygon.withoutZeroSigns, Path.withoutZeroSigns,
      List.map_flatten]
  | multiLineString paths =>
    simp [withoutZeroSigns, coords, Path.withoutZeroSigns, List.map_flatten]
  | multiPolygon shapes =>
    simp [withoutZeroSigns, coords, Polygon.withoutZeroSigns, Path.withoutZeroSigns,
      List.map_flatten, List.map_flatMap, List.flatMap_map]
  | collection members => exact coordsOfList_withoutZeroSigns members

theorem coordsOfList_withoutZeroSigns (gs : List Geometry) :
    coordsOfList (membersWithoutZeroSigns gs) = (coordsOfList gs).map Coord.withoutZeroSigns := by
  cases gs with
  | nil => rfl
  | cons g gs =>
    simp only [membersWithoutZeroSigns, coordsOfList, coords_withoutZeroSigns g,
      coordsOfList_withoutZeroSigns gs, List.map_append]

end

theorem isFinite_withoutZeroSigns (g : Geometry) : g.withoutZeroSigns.isFinite = g.isFinite := by
  rw [isFinite, isFinite, coords_withoutZeroSigns, List.all_map]
  congr 1
  exact funext Coord.isFinite_withoutZeroSigns

mutual

/-- The points of a geometry do not depend on the signs of zeros. -/
theorem figure_withoutZeroSigns (g : Geometry) : g.withoutZeroSigns.figure = g.figure := by
  cases g with
  | point | line =>
    simp only [withoutZeroSigns, figure, Planar.Point.ofCoord_withoutZeroSigns]
  | lineString path => simp only [withoutZeroSigns, figure, pathPoints_withoutZeroSigns]
  | polygon shape => exact polygonFigure_withoutZeroSigns shape
  | multiPoint positions =>
    have hPoints := pathPoints_withoutZeroSigns positions
    simp only [pathPoints, Path.withoutZeroSigns] at hPoints
    simp only [withoutZeroSigns, figure, hPoints]
  | multiLineString paths =>
    simp only [withoutZeroSigns, figure, List.map_map, Function.comp_def,
      pathPoints_withoutZeroSigns]
  | multiPolygon shapes =>
    simp only [withoutZeroSigns, figure, List.map_map, Function.comp_def,
      polygonFigure_withoutZeroSigns]
  | collection members => exact figureOfList_withoutZeroSigns members
  | rect | triangle =>
    simp only [withoutZeroSigns, figure, pathPoints, List.map_cons, List.map_nil,
      Planar.Point.ofCoord, Coord.withoutZeroSigns, Number.toRat_withoutZeroSign]

theorem figureOfList_withoutZeroSigns (gs : List Geometry) :
    figureOfList (membersWithoutZeroSigns gs) = figureOfList gs := by
  cases gs with
  | nil => rfl
  | cons g gs =>
    simp only [membersWithoutZeroSigns, figureOfList, figure_withoutZeroSigns g,
      figureOfList_withoutZeroSigns gs]

end

end Geometry

end GeoFilter
