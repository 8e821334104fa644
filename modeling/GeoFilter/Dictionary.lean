set_option autoImplicit false

/-! # Dictionaries

A finite map from names to values, kept as its entries in the order of their names. The order
is by code points, and it is part of the type: what is written down from a dictionary comes in
one order whatever the order of the insertions.

`get?_insert` and `get?_erase` say what each change does to what is found. -/

namespace GeoFilter

/-! ## Entries in order -/

namespace Entries

variable {β : Type}

/-- Every name is smaller than the names after it. -/
def Ordered (es : List (String × β)) : Prop := es.Pairwise fun a b => a.1 < b.1

/-- Puts a value under a name, at the place that the order of names gives it. -/
def put (name : String) (value : β) : List (String × β) → List (String × β)
  | [] => [(name, value)]
  | e :: es =>
    if name < e.1 then (name, value) :: e :: es
    else if name = e.1 then (name, value) :: es
    else e :: put name value es

/-- The value under a name. -/
def find? (name : String) : List (String × β) → Option β
  | [] => none
  | e :: es => if name = e.1 then some e.2 else find? name es

theorem lt_of_not_lt_of_ne {a b : String} (h : ¬ a < b) (hne : a ≠ b) : b < a := by
  rcases String.le_total a b with hab | hba
  · exact absurd (String.le_antisymm hab (String.not_lt.1 h)) hne
  · exact String.not_le.1 fun hab => hne (String.le_antisymm hab hba)

theorem mem_put {name : String} {value : β} {es : List (String × β)} {x : String × β}
    (h : x ∈ put name value es) : x = (name, value) ∨ x ∈ es := by
  induction es with
  | nil => simpa [put] using h
  | cons e es ih =>
    rw [put] at h
    split at h
    · simpa using h
    · split at h
      · rcases List.mem_cons.1 h with h | h
        · exact .inl h
        · exact .inr (List.mem_cons_of_mem _ h)
      · rcases List.mem_cons.1 h with h | h
        · exact .inr (by simp [h])
        · rcases ih h with h | h
          · exact .inl h
          · exact .inr (List.mem_cons_of_mem _ h)

theorem ordered_put (name : String) (value : β) {es : List (String × β)} (h : Ordered es) :
    Ordered (put name value es) := by
  induction es with
  | nil => simp [put, Ordered]
  | cons e es ih =>
    obtain ⟨he, hes⟩ := List.pairwise_cons.1 h
    rw [put]
    split
    next hlt =>
      refine List.pairwise_cons.2 ⟨fun x hx => ?_, h⟩
      rcases List.mem_cons.1 hx with rfl | hx
      · exact hlt
      · exact String.lt_trans hlt (he x hx)
    next hlt =>
      split
      next heq => exact List.pairwise_cons.2 ⟨fun x hx => heq ▸ he x hx, hes⟩
      next hne =>
        refine List.pairwise_cons.2 ⟨fun x hx => ?_, ih hes⟩
        rcases mem_put hx with rfl | hx
        · exact lt_of_not_lt_of_ne hlt hne
        · exact he x hx

theorem find?_put (name other : String) (value : β) (es : List (String × β)) :
    find? other (put name value es) = if other = name then some value else find? other es := by
  induction es with
  | nil => simp [put, find?]
  | cons e es ih =>
    rw [put]
    split
    · simp [find?]
    · split
      next heq =>
        subst heq
        by_cases h : other = e.1 <;> simp [find?, h]
      next hne =>
        rw [find?, ih, find?]
        by_cases h : other = e.1
        · have hne' : ¬ e.1 = name := fun heq => hne heq.symm
          simp [h, hne']
        · simp [h]

theorem find?_filter (name other : String) (es : List (String × β)) :
    find? other (es.filter fun e => e.1 ≠ name) =
      if other = name then none else find? other es := by
  induction es with
  | nil => simp [find?]
  | cons e es ih =>
    by_cases he : e.1 = name
    · rw [List.filter_cons_of_neg (by simp [he]), ih, find?]
      by_cases h : other = name
      · simp [h]
      · have hne : ¬ other = e.1 := fun heq => h (heq.trans he)
        simp [h, hne]
    · rw [List.filter_cons_of_pos (by simp [he]), find?, ih, find?]
      by_cases h : other = e.1
      · simp [h, he]
      · simp [h]

end Entries

/-! ## Dictionaries -/

/-- A finite map from names to values, with its entries in the order of names. -/
structure Dictionary (β : Type) where
  entries : List (String × β)
  ordered : Entries.Ordered entries

namespace Dictionary

variable {β : Type}

/-- The dictionary without entries. -/
def empty : Dictionary β := ⟨[], .nil⟩

instance : Inhabited (Dictionary β) := ⟨empty⟩

/-- The value under a name. -/
def get? (d : Dictionary β) (name : String) : Option β := Entries.find? name d.entries

/-- Puts a value under a name, in place of the one that was there. -/
def insert (d : Dictionary β) (name : String) (value : β) : Dictionary β :=
  ⟨Entries.put name value d.entries, Entries.ordered_put name value d.ordered⟩

/-- Takes the value under a name away. -/
def erase (d : Dictionary β) (name : String) : Dictionary β :=
  ⟨d.entries.filter fun e => e.1 ≠ name, d.ordered.filter _⟩

/-- Puts in all pairs, from left to right: of two with one name the later stays. -/
def ofList (pairs : List (String × β)) : Dictionary β :=
  pairs.foldl (fun d pair => d.insert pair.1 pair.2) empty

/-- The number of entries. -/
def size (d : Dictionary β) : Nat := d.entries.length

/-- The names, in order. -/
def names (d : Dictionary β) : List String := d.entries.map Prod.fst

/-- The values, in the order of their names. -/
def values (d : Dictionary β) : List β := d.entries.map Prod.snd

theorem get?_insert (d : Dictionary β) (name other : String) (value : β) :
    (d.insert name value).get? other = if other = name then some value else d.get? other :=
  Entries.find?_put name other value d.entries

theorem get?_erase (d : Dictionary β) (name other : String) :
    (d.erase name).get? other = if other = name then none else d.get? other :=
  Entries.find?_filter name other d.entries

end Dictionary

end GeoFilter
