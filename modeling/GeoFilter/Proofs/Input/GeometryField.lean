import GeoFilter.Input
import GeoFilter.Proofs.Dictionary

set_option autoImplicit false

/-! # The geometry of a line

The member that the settings name for the geometry is read when the line is. Where it holds text
that can be read, it is the default geometry of the record, and nothing else on the line can get in
its way: no other member is ever refused, and of several with that name the last one counts. -/

namespace GeoFilter

namespace Json

theorem orderedMembers_eq (members done : List (String × Json)) :
    orderedMembers members done
      = (members.map fun member => (member.1, member.2.ordered)).foldl
          (fun es member => Entries.put member.1 member.2 es) done := by
  induction members generalizing done with
  | nil => rfl
  | cons member members ih => exact ih _

/-- A value that was last written under a name is the only one there once the members are put in
    order. -/
theorem mem_orderedMembers {members : List (String × Json)} {name : String} {last json : Json}
    (h : LastUnder name last members) :
    (name, json) ∈ orderedMembers members [] ↔ json = last.ordered := by
  have hFound := (Entries.find?_foldl_put _ name _).2 (h.map ordered)
  rw [orderedMembers_eq, ← Entries.find?_eq_some_iff (Entries.ordered_foldl_put _ .nil), hFound,
    Option.some.injEq, eq_comm]

theorem ordered_string (s : String) : (string s).ordered = string s := by rw [ordered.eq_def]

theorem ordered_integer (n : Int) : (integer n).ordered = integer n := by rw [ordered.eq_def]

end Json

namespace Input

/-- The text is the geometry of a line, by the member that the settings name for it. -/
def HoldsGeometryText (settings : RecordSettings) (line text : String) : Prop :=
  ∃ field members, settings.geometryField = some field ∧
    Json.parse line = some (.object members) ∧ LastUnder field (.string text) members

section

variable {settings : RecordSettings} {field text : String} {g : Geometry}

/-- A member becomes an attribute of a record with the same attributes otherwise, and of one with
    another identifier only if it has the name for that. -/
theorem addMember_eq (settings : RecordSettings) (r : Record) (name : String) (json : Json) :
    ∃ r' : Record, r'.attributes = r.attributes ∧
      r'.id = (if settings.idField = some name then (idText? json).or r.id else r.id) ∧
      addMember settings r (name, json)
        = (if settings.geometryField = some name then geometryValue name json
            else .ok (value json)).map fun v => r'.insert name v := by
  have hInsert : ∀ r' : Record, (if settings.geometryField = some name then
          (geometryValue name json).bind fun v => .ok (r'.insert name v)
        else .ok (r'.insert name (value json)))
      = (if settings.geometryField = some name then geometryValue name json
          else .ok (value json)).map fun v => r'.insert name v := by
    intro r'
    split
    · cases geometryValue name json <;> rfl
    · rfl
  refine ⟨_, ?attributes, ?id, hInsert _⟩
  -- at most the identifier was set before
  case attributes =>
    split
    · split <;> rfl
    · rfl
  case id =>
    split
    · cases idText? json <;> rfl
    · rfl

/-- A member is added without fail unless it has the name of the geometry and no readable text. With
    the text it leaves the geometry there, and otherwise it keeps the one that is there. -/
theorem addMember_ok (hField : settings.geometryField = some field)
    (hRead : Geometry.ofWkt text = .ok g) {member : String × Json}
    (hText : member.1 = field → member.2 = .string text) (r : Record) :
    ∃ r', addMember settings r member = .ok r' ∧
      (member.1 = field ∨ r.attributes.get? field = some (.geometry g) →
        r'.attributes.get? field = some (.geometry g)) := by
  obtain ⟨name, json⟩ := member
  obtain ⟨r₀, hSame, -, hAdd⟩ := addMember_eq settings r name json
  by_cases hName : name = field
  · subst hName
    obtain rfl := hText rfl
    rw [if_pos hField, geometryValue, hRead] at hAdd
    refine ⟨r₀.insert name (.geometry g), hAdd, fun _ => ?_⟩
    simp [Record.insert, Dictionary.get?_insert]
  · have hOther : settings.geometryField ≠ some name := by
      rw [hField]
      exact fun hEq => hName (Option.some.inj hEq).symm
    rw [if_neg hOther] at hAdd
    refine ⟨r₀.insert name (value json), hAdd, fun h => ?_⟩
    rw [Record.insert, Dictionary.get?_insert, if_neg fun hEq => hName hEq.symm, hSame]
    exact h.resolve_left hName

/-- So members are added without fail, and leave the geometry there if one of them has the name. -/
theorem foldlM_addMember (hField : settings.geometryField = some field)
    (hRead : Geometry.ofWkt text = .ok g) {members : List (String × Json)}
    (hText : ∀ member ∈ members, member.1 = field → member.2 = .string text) (r : Record) :
    ∃ r', members.foldlM (addMember settings) r = .ok r' ∧
      ((∃ member ∈ members, member.1 = field) ∨ r.attributes.get? field = some (.geometry g) →
        r'.attributes.get? field = some (.geometry g)) := by
  induction members generalizing r with
  | nil => exact ⟨r, rfl, by simp⟩
  | cons member members ih =>
    obtain ⟨hFirst, hOthers⟩ := List.forall_mem_cons.1 hText
    obtain ⟨r₀, hAdd, hKept⟩ := addMember_ok hField hRead hFirst r
    obtain ⟨r', hFold, hFound⟩ := ih hOthers r₀
    refine ⟨r', ?_, ?_⟩
    · rw [List.foldlM_cons, hAdd]
      exact hFold
    · rintro (⟨other, hMem, hName⟩ | hThere)
      · rcases List.mem_cons.1 hMem with rfl | hMem
        · exact hFound (.inr (hKept (.inl hName)))
        · exact hFound (.inl ⟨other, hMem, hName⟩)
      · exact hFound (.inr (hKept (.inr hThere)))

/-- A line that holds text of a geometry is a record with that geometry. -/
theorem parseRecord_geometry {line : String} (h : HoldsGeometryText settings line text)
    (hRead : Geometry.ofWkt text = .ok g) :
    ∃ r, parseRecord settings line = .ok r ∧ r.view.defaultGeometry = some g := by
  obtain ⟨field, members, hField, hLine, hLast⟩ := h
  have hText : ∀ member ∈ Json.orderedMembers members [], member.1 = field →
      member.2 = .string text := by
    rintro ⟨_, json⟩ hMem rfl
    exact ((Json.mem_orderedMembers hLast).1 hMem).trans (Json.ordered_string text)
  obtain ⟨r, hFold, hFound⟩ := foldlM_addMember hField hRead hText Record.empty
  refine ⟨r.withGeometryName field, ?_, ?_⟩
  · rw [parseRecord, hLine]
    dsimp only [Option.map_some, Json.ordered]
    rw [hFold, hField]
    rfl
  · have hGeometry := hFound (.inl ⟨_, (Json.mem_orderedMembers hLast).2 rfl, rfl⟩)
    show (r.attributes.get? field).bind Record.geometryOf? = some g
    rw [hGeometry]
    rfl

end

end Input

end GeoFilter
