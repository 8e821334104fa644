import GeoFilter.Proofs.Complement
import GeoFilter.Proofs.Dictionary
import GeoFilter.Record.Basic

set_option autoImplicit false

/-! # Records by their history

A record comes of changes to the empty record. What it holds under a name is what the last change
to that name left there, whatever came before: its attributes, its identifier and the name of its
default geometry can all be told from the history alone. So a record is a finite map with a rule for
the default geometry, and without an identifier and a name for the geometry, filters cannot tell it
from a plain map. -/

namespace GeoFilter

/-! ## Changes -/

/-- A change to a record: an attribute gets a value or is taken away, the record gets an identifier
    or a name for its default geometry, or pairs are collected into a record in its place. -/
inductive Edit where
  | insert (name : String) (value : Value)
  | erase (name : String)
  | setId (id : String)
  | setGeometryName (name : String)
  | collect (pairs : List (String × Value))

namespace Edit

/-- The change puts a value under a name. -/
def Puts (name : String) (value : Value) : Edit → Prop
  | insert name' value' => name' = name ∧ value' = value
  | collect pairs => LastUnder name value pairs
  | erase _ | setId _ | setGeometryName _ => False

/-- The change decides what is under a name. -/
def Touches (name : String) : Edit → Prop
  | insert name' _ | erase name' => name' = name
  | collect _ => True
  | setId _ | setGeometryName _ => False

/-- The change sets this identifier. -/
def SetsId (id : String) (e : Edit) : Prop := e = setId id

/-- The change decides about the identifier. -/
def TouchesId : Edit → Prop
  | setId _ | collect _ => True
  | insert _ _ | erase _ | setGeometryName _ => False

/-- The change makes this the name of the default geometry. -/
def NamesGeometry (name : String) (e : Edit) : Prop := e = setGeometryName name

/-- The change decides about the name of the default geometry. -/
def TouchesGeometryName : Edit → Prop
  | setGeometryName _ | collect _ => True
  | insert _ _ | erase _ | setId _ => False

/-- Pairs inserted one after the other. -/
def inserts (pairs : List (String × Value)) : List Edit :=
  pairs.map fun pair => insert pair.1 pair.2

theorem Puts.touches {name : String} {value : Value} {e : Edit} (h : e.Puts name value) :
    e.Touches name := by
  cases e with
  | insert => exact h.1
  | collect => trivial
  | erase | setId | setGeometryName => exact h.elim

end Edit

/-- After the changes there is this value under this name: it was the last to be put there, and it
    was not taken away since. -/
def Carried (edits : List Edit) (name : String) (value : Value) : Prop :=
  LeftBy (Edit.Puts name value) (Edit.Touches name) edits

/-- The last name given to the default geometry. -/
def GeometryNamed (edits : List Edit) (name : String) : Prop :=
  LeftBy (Edit.NamesGeometry name) Edit.TouchesGeometryName edits

/-- The last identifier given. -/
def Identified (edits : List Edit) (id : String) : Prop :=
  LeftBy (Edit.SetsId id) Edit.TouchesId edits

/-- The default geometry after the changes: the geometry under the name that is given to it, or,
    where none is given, the one under the least name that has one. -/
def HasDefaultGeometry (edits : List Edit) (g : Geometry) : Prop :=
  (∃ name, GeometryNamed edits name ∧ Carried edits name (.geometry g)) ∨
    (∀ name, ¬ GeometryNamed edits name) ∧ ∃ name, Carried edits name (.geometry g) ∧
      ∀ other h, other < name → ¬ Carried edits other (.geometry h)

namespace Record

/-- The record after a change. -/
def edit (r : Record) : Edit → Record
  | .insert name value => r.insert name value
  | .erase name => r.erase name
  | .setId id => r.withId id
  | .setGeometryName name => r.withGeometryName name
  | .collect pairs => .ofList pairs

/-- The record that changes make of the empty one. -/
def ofEdits (edits : List Edit) : Record := edits.foldl edit empty

variable {edits : List Edit} {name : String}

/-! ## What the last change left -/

theorem get?_ofEdits (edits : List Edit) (name : String) (value : Value) :
    (ofEdits edits).attributes.get? name = some value ↔ Carried edits name value := by
  refine seen_iff_leftBy (fun r : Record => r.attributes.get? name) edit empty
    (fun value e => e.Puts name value) (Edit.Touches name) rfl ?_ ?_
    (fun _ _ => Edit.Puts.touches) edits value
  · intro r e x hTouches
    cases e with
    | insert name' value' =>
      obtain rfl : name' = name := hTouches
      simp [edit, insert, Dictionary.get?_insert, Edit.Puts]
    | erase name' =>
      obtain rfl : name' = name := hTouches
      simp [edit, erase, Dictionary.get?_erase, Edit.Puts]
    | collect pairs => exact Dictionary.get?_ofList pairs
    | setId | setGeometryName => exact hTouches.elim
  · intro r e hKeeps
    cases e with
    | insert name' value' =>
      exact (Dictionary.get?_insert _ _ _ _).trans (if_neg fun hEq => hKeeps hEq.symm)
    | erase name' =>
      exact (Dictionary.get?_erase _ _ _).trans (if_neg fun hEq => hKeeps hEq.symm)
    | collect pairs => exact absurd trivial hKeeps
    | setId | setGeometryName => rfl

theorem id_ofEdits (edits : List Edit) (id : String) :
    (ofEdits edits).id = some id ↔ Identified edits id := by
  refine seen_iff_leftBy Record.id edit empty Edit.SetsId Edit.TouchesId rfl ?_ ?_ ?_ edits id
  · intro r e x hTouches
    cases e with
    | setId | collect => simp [edit, withId, ofList, Edit.SetsId]
    | insert | erase | setGeometryName => exact hTouches.elim
  · intro r e hKeeps
    cases e with
    | insert | erase | setGeometryName => rfl
    | setId | collect => exact absurd trivial hKeeps
  · rintro _ x rfl
    trivial

theorem geometryName_ofEdits (edits : List Edit) (name : String) :
    (ofEdits edits).geometryName = some name ↔ GeometryNamed edits name := by
  refine seen_iff_leftBy geometryName edit empty Edit.NamesGeometry Edit.TouchesGeometryName rfl
    ?_ ?_ ?_ edits name
  · intro r e x hTouches
    cases e with
    | setGeometryName | collect => simp [edit, withGeometryName, ofList, Edit.NamesGeometry]
    | insert | erase | setId => exact hTouches.elim
  · intro r e hKeeps
    cases e with
    | insert | erase | setId => rfl
    | setGeometryName | collect => exact absurd trivial hKeeps
  · rintro _ x rfl
    trivial

/-! ## What can be asked of the record -/

theorem lookup_of_carried {value : Value} (h : Carried edits name value) :
    (ofEdits edits).lookup name = value := by
  rw [lookup, (get?_ofEdits edits name value).2 h, Option.getD_some]

theorem lookup_of_not_carried (h : ∀ value, ¬ Carried edits name value) :
    (ofEdits edits).lookup name = .absent := by
  have hNone : (ofEdits edits).attributes.get? name = none := by
    refine Option.eq_none_iff_forall_ne_some.2 fun value hSome => ?_
    exact h value ((get?_ofEdits edits name value).1 hSome)
  rw [lookup, hNone, Option.getD_none]

theorem mem_names_ofEdits :
    name ∈ (ofEdits edits).attributes.names ↔ ∃ value, Carried edits name value := by
  simp only [Dictionary.mem_names_iff, get?_ofEdits]

theorem geometryOf?_eq_some {v : Value} {g : Geometry} :
    geometryOf? v = some g ↔ v = .geometry g := by
  cases v <;> simp [geometryOf?]

theorem firstGeometry_eq_some (attributes : Dictionary Value) (g : Geometry) :
    firstGeometry attributes = some g ↔ ∃ name, attributes.get? name = some (.geometry g) ∧
      ∀ other h, other < name → attributes.get? other ≠ some (.geometry h) := by
  rw [firstGeometry, Dictionary.findSome?_values]
  constructor
  · rintro ⟨name, value, hFound, hGeometry, hLeast⟩
    obtain rfl := geometryOf?_eq_some.1 hGeometry
    refine ⟨name, hFound, fun other h hLess hOther => ?_⟩
    exact absurd (hLeast other _ hLess hOther) (by simp [geometryOf?])
  · rintro ⟨name, hFound, hLeast⟩
    refine ⟨name, _, hFound, rfl, fun other old hLess hOther => ?_⟩
    refine Option.eq_none_iff_forall_ne_some.2 fun h hGeometry => ?_
    exact hLeast other h hLess (geometryOf?_eq_some.1 hGeometry ▸ hOther)

theorem geometry_ofEdits (edits : List Edit) (g : Geometry) :
    (ofEdits edits).geometry = some g ↔ HasDefaultGeometry edits g := by
  have hNamed := geometryName_ofEdits edits
  rw [geometry, HasDefaultGeometry]
  cases hName : (ofEdits edits).geometryName with
  | none =>
    have hNone : ∀ name, ¬ GeometryNamed edits name := fun name h =>
      nomatch hName.symm.trans ((hNamed name).2 h)
    simp only [firstGeometry_eq_some, ne_eq, get?_ofEdits, hNone, not_false_eq_true, implies_true,
      false_and, exists_const, true_and, false_or]
  | some name =>
    have hGiven : GeometryNamed edits name := (hNamed name).1 hName
    have hOnly : ∀ other, GeometryNamed edits other → other = name := fun other h =>
      Option.some.inj (((hNamed other).2 h).symm.trans hName)
    simp only [Option.bind_eq_some_iff, get?_ofEdits, geometryOf?_eq_some]
    constructor
    · rintro ⟨_, hCarried, rfl⟩
      exact .inl ⟨name, hGiven, hCarried⟩
    · rintro (⟨other, hOther, hCarried⟩ | ⟨hNone, -⟩)
      · obtain rfl := hOnly other hOther
        exact ⟨_, hCarried, rfl⟩
      · exact absurd hGiven (hNone name)

/-- The names with a value are as many as the record counts. -/
theorem size_ofEdits {names : List String} (hOnce : names.Nodup)
    (h : ∀ name, name ∈ names ↔ ∃ value, Carried edits name value) :
    (ofEdits edits).attributes.size = names.length := by
  have hListed : (ofEdits edits).attributes.names.Nodup :=
    (Dictionary.names_ascending _).imp String.ne_of_lt
  have hPerm := (List.perm_ext_iff_of_nodup hListed hOnce).2 fun name =>
    mem_names_ofEdits.trans (h name).symm
  rw [← Dictionary.length_names, hPerm.length_eq]

/-! ## Plain maps -/

/-- Without an identifier and a name for its geometry, a record is seen like a plain map of pairs
    that leave the same under each name. -/
theorem view_ofEdits {pairs : List (String × Value)} (hId : ∀ id, ¬ Identified edits id)
    (hNone : ∀ name, ¬ GeometryNamed edits name)
    (hPairs : ∀ name value, Carried edits name value ↔ LastUnder name value pairs) :
    (ofEdits edits).view = (Dictionary.ofList pairs).view := by
  have hAttributes : (ofEdits edits).attributes = Dictionary.ofList pairs :=
    Dictionary.ext_get? fun name => Option.ext fun value => by
      rw [get?_ofEdits, hPairs, Dictionary.get?_ofList]
  have hNoId : (ofEdits edits).id = none := Option.eq_none_iff_forall_ne_some.2 fun id h =>
    hId id ((id_ofEdits edits id).1 h)
  have hNoName : (ofEdits edits).geometryName = none :=
    Option.eq_none_iff_forall_ne_some.2 fun name h =>
      hNone name ((geometryName_ofEdits edits name).1 h)
  rw [view, hNoId, geometry, hNoName, hAttributes, Dictionary.view]
  congr 1
  funext name
  rw [lookup, hAttributes]

/-! ## Order of insertions -/

theorem foldl_inserts (pairs : List (String × Value)) (r : Record) :
    (Edit.inserts pairs).foldl edit r = pairs.foldl (fun r pair => r.insert pair.1 pair.2) r :=
  List.foldl_map

/-- Collecting pairs is inserting them into the empty record. -/
theorem ofEdits_inserts (pairs : List (String × Value)) :
    ofEdits (Edit.inserts pairs) = ofEdits [.collect pairs] := by
  rw [ofEdits, foldl_inserts]
  exact List.foldl_hom (fun d : Dictionary Value => (⟨none, d, none⟩ : Record)) fun _ _ => rfl

/-- Pairs with different names can be inserted in any order. -/
theorem ofEdits_perm (edits : List Edit) {pairs pairs' : List (String × Value)}
    (h : pairs.Perm pairs') (hNames : (pairs.map Prod.fst).Nodup) :
    ofEdits (edits ++ Edit.inserts pairs) = ofEdits (edits ++ Edit.inserts pairs') := by
  rw [ofEdits, ofEdits, List.foldl_append, List.foldl_append, foldl_inserts, foldl_inserts]
  refine h.foldl_eq' (fun pair hPair other hOther r => ?_) _
  by_cases hName : pair.1 = other.1
  · obtain rfl := List.inj_on_of_nodup_map hNames hPair hOther hName
    rfl
  · simp only [insert, Dictionary.insert_comm hName]

/-! ## All of it -/

/-- The record is what its history makes of it: a finite map from the names that carry a value,
    each of which is listed once and in order, with the last identifier and the default geometry
    that the history tells. -/
structure Reflects (r : Record) (edits : List Edit) : Prop where
  found : ∀ name value, Carried edits name value → r.lookup name = value
  missing : ∀ name, (∀ value, ¬ Carried edits name value) → r.lookup name = .absent
  listed : ∀ name value, (name, value) ∈ r.attributes.entries ↔ Carried edits name value
  ascending : r.attributes.names.Pairwise (· < ·)
  counted : ∀ names : List String, names.Nodup →
    (∀ name, name ∈ names ↔ ∃ value, Carried edits name value) →
    r.attributes.size = names.length
  identified : ∀ id, r.id = some id ↔ Identified edits id
  geometry : ∀ g, r.geometry = some g ↔ HasDefaultGeometry edits g

/-- After any changes a record reflects its history. Without an identifier and a name for its
    geometry it answers every filter like a plain map that holds the same pairs, in particular
    where it was collected from these pairs or where they were inserted one after the other; and
    pairs with different names make the same record in whichever order they are inserted. -/
theorem ofEdits_reflects [Relate] (edits : List Edit) :
    (ofEdits edits).Reflects edits ∧
      (∀ pairs, (∀ id, ¬ Identified edits id) → (∀ name, ¬ GeometryNamed edits name) →
        (∀ name value, Carried edits name value ↔ LastUnder name value pairs) →
        ∀ f : Filter, f.accepts (ofEdits edits).view = f.accepts (Dictionary.ofList pairs).view) ∧
      (∀ pairs, ofEdits (Edit.inserts pairs) = ofEdits [.collect pairs] ∧
        ∀ f : Filter,
          f.accepts (ofEdits [.collect pairs]).view = f.accepts (Dictionary.ofList pairs).view) ∧
      ∀ pairs pairs' : List (String × Value), pairs.Perm pairs' → (pairs.map Prod.fst).Nodup →
        ofEdits (edits ++ Edit.inserts pairs) = ofEdits (edits ++ Edit.inserts pairs') := by
  refine ⟨⟨fun _ _ => lookup_of_carried, fun _ => lookup_of_not_carried, ?_,
    Dictionary.names_ascending _, fun _ => size_ofEdits, id_ofEdits edits,
    geometry_ofEdits edits⟩, ?_, ?_, fun _ _ => ofEdits_perm edits⟩
  · intro name value
    rw [← Dictionary.get?_eq_some_iff, get?_ofEdits]
  · intro pairs hId hNone hPairs f
    rw [view_ofEdits hId hNone hPairs]
  · exact fun pairs => ⟨ofEdits_inserts pairs, fun f => rfl⟩

/-- The attribute that gives the default geometry is taken away and comes back without one. -/
theorem ofEdits_reflects_moved_geometry :
    let track : Value := .geometry (.lineString [])
    let edits : List Edit := [.insert "area" (.geometry (.multiPoint [])), .insert "track" track,
      .erase "area", .insert "area" .null]
    let pairs : List (String × Value) := [("track", .null), ("area", .null), ("track", track)]
    ((∀ id, ¬ Identified edits id) ∧ (∀ name, ¬ GeometryNamed edits name) ∧
        ∀ name value, Carried edits name value ↔ LastUnder name value pairs) ∧
      (ofEdits edits).geometry = some (.lineString []) ∧
        ∀ f : Filter,
          f.accepts (ofEdits edits).view = f.accepts (Dictionary.ofList pairs).view := by
  intro track edits pairs
  have hId : ∀ id, ¬ Identified edits id := fun id h => nomatch (id_ofEdits edits id).2 h
  have hNone : ∀ name, ¬ GeometryNamed edits name := fun name h =>
    nomatch (geometryName_ofEdits edits name).2 h
  have hPairs : ∀ name value, Carried edits name value ↔ LastUnder name value pairs := by
    have hSame : (ofEdits edits).attributes.entries = (Dictionary.ofList pairs).entries := by cbv
    intro name value
    rw [← get?_ofEdits, Dictionary.get?_eq_some_iff, hSame, ← Dictionary.get?_eq_some_iff,
      Dictionary.get?_ofList]
  have hGeometry : (ofEdits edits).geometry = some (.lineString []) := by cbv
  exact ⟨⟨hId, hNone, hPairs⟩, hGeometry, (ofEdits_reflects edits).2.1 pairs hId hNone hPairs⟩

end Record

end GeoFilter
