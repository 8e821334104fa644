import GeoFilter.Proofs.Record.Edits

set_option autoImplicit false

/-! # Attributes that are absent

A record should answer absent for the names that it does not carry, and for no others. It stores
what it is given, absent values included, and lists them: the attributes at fault are those that an
absent value was last put into, and without these the answers keep to the names that are listed. -/

namespace GeoFilter

namespace Record

/-- The names listed by a record that have a value. -/
def present (r : Record) : List String :=
  r.attributes.names.filter fun name => !(r.lookup name).isAbsent

variable {edits : List Edit} {name : String}

theorem isAbsent_iff {v : Value} : v.isAbsent = true ↔ v = .absent := by
  cases v <;> simp [Value.isAbsent]

/-- Absent is looked up where nothing is listed, and where an absent value is. -/
theorem lookup_eq_absent_iff :
    (ofEdits edits).lookup name = .absent ↔
      name ∉ (ofEdits edits).attributes.names ∨ Carried edits name .absent := by
  rw [mem_names_ofEdits]
  constructor
  · intro h
    by_cases hListed : ∃ value, Carried edits name value
    · obtain ⟨value, hCarried⟩ := hListed
      obtain rfl := (lookup_of_carried hCarried).symm.trans h
      exact .inr hCarried
    · exact .inl hListed
  · rintro (hNone | hAbsent)
    · exact lookup_of_not_carried fun value hCarried => hNone ⟨value, hCarried⟩
    · exact lookup_of_carried hAbsent

theorem lookup_ne_absent_iff (h : name ∈ (ofEdits edits).attributes.names) :
    (ofEdits edits).lookup name ≠ .absent ↔ ¬ Carried edits name .absent := by
  rw [ne_eq, lookup_eq_absent_iff]
  simp [h]

/-- The names listed are those with a value and those with an absent one. -/
theorem size_eq_add {absents : List String} (hOnce : absents.Nodup)
    (h : ∀ name, name ∈ absents ↔ Carried edits name .absent) :
    (ofEdits edits).attributes.size = (ofEdits edits).present.length + absents.length := by
  have hNames : (ofEdits edits).attributes.names.Nodup :=
    (Dictionary.names_ascending _).imp String.ne_of_lt
  have hPresent : ∀ name, name ∈ (ofEdits edits).present ↔
      name ∈ (ofEdits edits).attributes.names ∧ ¬ Carried edits name .absent := by
    intro name
    rw [present, List.mem_filter]
    refine and_congr_right fun hListed => ?_
    rw [← lookup_ne_absent_iff hListed, ne_eq, ← isAbsent_iff]
    simp
  have hApart : ∀ name ∈ (ofEdits edits).present, name ∉ absents := fun name hMem hAbsent =>
    ((hPresent name).1 hMem).2 ((h name).1 hAbsent)
  have hBothOnce : ((ofEdits edits).present ++ absents).Nodup :=
    List.nodup_append.2 ⟨hNames.filter _, hOnce, fun name hMem other hOther hEq =>
      hApart name hMem (hEq ▸ hOther)⟩
  rw [← List.length_append]
  refine size_ofEdits hBothOnce fun name => ?_
  rw [List.mem_append, hPresent, h, mem_names_ofEdits]
  constructor
  · rintro (⟨hListed, -⟩ | hAbsent)
    · exact hListed
    · exact ⟨_, hAbsent⟩
  · intro hListed
    by_cases hAbsent : Carried edits name .absent
    · exact .inr hAbsent
    · exact .inl ⟨hListed, hAbsent⟩

/-- A listed name has an answer to the test for null exactly if it does not hold an absent value. -/
theorem opposed_isNull_of_listed [Relate] (h : name ∈ (ofEdits edits).attributes.names) :
    Filter.Opposed (ofEdits edits).view (.isNull name false) (.isNull name true)
      (¬ Carried edits name .absent) := by
  obtain ⟨hNotBoth, hOne⟩ := Filter.opposed_isNull (ofEdits edits).view name
  exact ⟨hNotBoth, hOne.trans (lookup_ne_absent_iff h)⟩

/-- What a record with absent values does, after any changes: such a name is listed and counted,
    but looked up as absent, and no test for null accepts it. So a name is looked up as absent
    exactly if it is not listed, for all names, exactly if no absent value is left under a name. -/
theorem absent_iff_not_listed [Relate] (edits : List Edit) :
    (∀ name, (ofEdits edits).lookup name = .absent ↔
        name ∉ (ofEdits edits).attributes.names ∨ Carried edits name .absent) ∧
      (∀ absents : List String, absents.Nodup →
        (∀ name, name ∈ absents ↔ Carried edits name .absent) →
        (ofEdits edits).attributes.size = (ofEdits edits).present.length + absents.length) ∧
      (∀ name ∈ (ofEdits edits).attributes.names,
        Filter.Opposed (ofEdits edits).view (.isNull name false) (.isNull name true)
          (¬ Carried edits name .absent)) ∧
      ((∀ name, (ofEdits edits).lookup name = .absent ↔
          name ∉ (ofEdits edits).attributes.names) ↔
        ∀ name, ¬ Carried edits name .absent) := by
  refine ⟨fun _ => lookup_eq_absent_iff, fun _ => size_eq_add, fun _ => opposed_isNull_of_listed,
    ?_⟩
  simp only [lookup_eq_absent_iff]
  constructor
  · intro hContract name hAbsent
    exact (hContract name).1 (.inr hAbsent) (mem_names_ofEdits.2 ⟨_, hAbsent⟩)
  · intro hNone name
    simp [hNone name]

/-- An absent value that is inserted is listed and counted. -/
theorem absent_listed :
    let r := ofEdits [.insert "x" .absent]
    r.lookup "x" = .absent ∧ "x" ∈ r.attributes.names ∧ r.attributes.size = 1 ∧ r.present = [] ∧
      (Filter.isNull "x" false).accepts r.view = false ∧
      (Filter.isNull "x" true).accepts r.view = false := by
  refine ⟨rfl, ?_, rfl, ?_, rfl, rfl⟩
  · decide
  · decide

end Record

end GeoFilter
