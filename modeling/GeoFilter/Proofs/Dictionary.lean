import GeoFilter.Dictionary
import Mathlib.Data.List.DropRight

set_option autoImplicit false

/-! # What a dictionary holds

A dictionary is determined by what is found under each name: its entries are just that, in the
order of the names. What a list of pairs leaves under a name is the value of the last pair with that
name, so pairs with different names may come in any order. -/

namespace GeoFilter

/-! ## The last of many steps -/

section

variable {α β σ : Type}

/-- Something stands at the end of many steps because one of them set it, and none of the steps
    after that one touched it. -/
def LeftBy (sets touches : α → Prop) (steps : List α) : Prop :=
  ∃ before step after, steps = before ++ step :: after ∧ sets step ∧ ∀ s ∈ after, ¬ touches s

variable {sets touches : α → Prop} {steps : List α} {s : α}

theorem not_leftBy_nil : ¬ LeftBy sets touches [] := by
  rintro ⟨before, step, after, h, -⟩
  exact List.append_ne_nil_of_right_ne_nil before (List.cons_ne_nil step after) h.symm

theorem leftBy_concat :
    LeftBy sets touches (steps ++ [s]) ↔ sets s ∨ ¬ touches s ∧ LeftBy sets touches steps := by
  constructor
  · rintro ⟨before, step, after, h, hSets, hAfter⟩
    rcases after.eq_nil_or_concat' with rfl | ⟨after, last, rfl⟩
    · obtain ⟨-, rfl⟩ := List.append_singleton_inj.1 h
      exact .inl hSets
    · rw [← List.cons_append, ← List.append_assoc] at h
      obtain ⟨rfl, rfl⟩ := List.append_singleton_inj.1 h
      obtain ⟨hBefore, hLast⟩ := List.forall_mem_append.1 hAfter
      exact .inr ⟨hLast s (List.mem_singleton_self s), before, step, after, rfl, hSets, hBefore⟩
  · rintro (hSets | ⟨hKeeps, before, step, after, rfl, hSets, hAfter⟩)
    · exact ⟨steps, s, [], rfl, hSets, List.forall_mem_nil _⟩
    · refine ⟨before, step, after ++ [s], by simp, hSets, ?_⟩
      exact List.forall_mem_append.2 ⟨hAfter, List.forall_mem_singleton.2 hKeeps⟩

/-- What is seen after many steps was left by one of them, if every step either keeps what is seen
    or decides it alone. -/
theorem seen_iff_leftBy (see : σ → Option β) (take : σ → α → σ) (start : σ)
    (sets : β → α → Prop) (touches : α → Prop) (hStart : see start = none)
    (hSets : ∀ r s x, touches s → (see (take r s) = some x ↔ sets x s))
    (hKeeps : ∀ r s, ¬ touches s → see (take r s) = see r)
    (hTouches : ∀ s x, sets x s → touches s) (steps : List α) (x : β) :
    see (steps.foldl take start) = some x ↔ LeftBy (sets x) touches steps := by
  induction steps using List.reverseRecOn with
  | nil => simp [hStart, not_leftBy_nil]
  | append_singleton steps s ih =>
    rw [List.foldl_concat, leftBy_concat]
    by_cases h : touches s
    · rw [hSets _ s x h]
      simp [h]
    · rw [hKeeps _ s h, ih]
      simp [h, mt (hTouches s x) h]

end

/-- The last of the pairs with this name has this value. -/
def LastUnder {β : Type} (name : String) (value : β) (pairs : List (String × β)) : Prop :=
  LeftBy (· = (name, value)) (·.1 = name) pairs

theorem LastUnder.map {β γ : Type} {name : String} {value : β} {pairs : List (String × β)}
    (h : LastUnder name value pairs) (f : β → γ) :
    LastUnder name (f value) (pairs.map fun pair => (pair.1, f pair.2)) := by
  obtain ⟨before, _, after, rfl, rfl, hAfter⟩ := h
  exact ⟨_, _, _, List.map_append, rfl, List.forall_mem_map.2 hAfter⟩

/-! ## Entries -/

namespace Entries

variable {β γ : Type} {name : String} {value : β} {es : List (String × β)}

/-- An entry is found under its name. -/
theorem find?_eq_some_iff (h : Ordered es) : find? name es = some value ↔ (name, value) ∈ es := by
  induction es with
  | nil => simp [find?]
  | cons e es ih =>
    obtain ⟨he, hes⟩ := List.pairwise_cons.1 h
    rw [find?, List.mem_cons]
    split
    next hName =>
      subst hName
      have hOther : (e.1, value) ∉ es := fun hMem => String.lt_irrefl e.1 (he (e.1, value) hMem)
      simp [Prod.ext_iff, hOther, eq_comm]
    next hName => simp [ih hes, Prod.ext_iff, hName]

/-- Entries in order are determined by what is found under each name. -/
theorem ext_find? {es' : List (String × β)} (h : Ordered es) (h' : Ordered es')
    (hFind : ∀ name, find? name es = find? name es') : es = es' := by
  have hMem : ∀ e, e ∈ es ↔ e ∈ es' := fun (name, value) => by
    rw [← find?_eq_some_iff h, hFind name, find?_eq_some_iff h']
  have hDistinct : ∀ {es : List (String × β)}, Ordered es → es.Nodup := fun h =>
    List.Pairwise.imp (fun hLt hEq => String.ne_of_lt hLt (congrArg Prod.fst hEq)) h
  have hPerm := (List.perm_ext_iff_of_nodup (hDistinct h) (hDistinct h')).2 hMem
  exact hPerm.eq_of_pairwise (fun _ _ _ _ hLt hGt => absurd hLt (String.lt_asymm hGt)) h h'

/-- The first entry that a partial function takes is the one with the least name. -/
theorem findSome?_eq_some_iff (h : Ordered es) (f : β → Option γ) (x : γ) :
    es.findSome? (fun e => f e.2) = some x ↔
      ∃ name value, (name, value) ∈ es ∧ f value = some x ∧
        ∀ e ∈ es, e.1 < name → f e.2 = none := by
  rw [List.findSome?_eq_some_iff]
  constructor
  · rintro ⟨before, ⟨name, value⟩, after, rfl, hFirst, hBefore⟩
    refine ⟨name, value, by simp, hFirst, ?_⟩
    have hAfter := (List.pairwise_cons.1 (List.pairwise_append.1 h).2.1).1
    intro e he hLess
    rcases List.mem_append.1 he with he | he
    · exact hBefore e he
    · rcases List.mem_cons.1 he with rfl | he
      · exact absurd hLess (String.lt_irrefl _)
      · exact absurd hLess (String.lt_asymm (hAfter e he))
  · rintro ⟨name, value, hMem, hTakes, hLeast⟩
    obtain ⟨before, after, rfl⟩ := List.append_of_mem hMem
    have hBefore := (List.pairwise_append.1 h).2.2
    refine ⟨before, (name, value), after, rfl, hTakes, fun e he => ?_⟩
    exact hLeast e (List.mem_append_left _ he) (hBefore e he _ List.mem_cons_self)

/-- What is put in place by pairs, one after the other, is the last one under each name. -/
theorem find?_foldl_put (pairs : List (String × β)) (name : String) (value : β) :
    find? name (pairs.foldl (fun es pair => put pair.1 pair.2 es) []) = some value ↔
      LastUnder name value pairs := by
  refine seen_iff_leftBy (find? name) (fun es pair => put pair.1 pair.2 es) []
    (fun value pair => pair = (name, value)) _ rfl ?_ ?_ ?_ pairs value
  · rintro es ⟨other, old⟩ x rfl
    simp [find?_put]
  · intro es pair h
    rw [find?_put, if_neg fun hEq => h hEq.symm]
  · rintro _ x rfl
    rfl

theorem ordered_foldl_put (pairs : List (String × β)) (h : Ordered es) :
    Ordered (pairs.foldl (fun es pair => put pair.1 pair.2 es) es) := by
  induction pairs generalizing es with
  | nil => exact h
  | cons pair pairs ih => exact ih (ordered_put pair.1 pair.2 h)

end Entries

/-! ## Dictionaries -/

namespace Dictionary

variable {β γ : Type} {d d' : Dictionary β} {name : String} {value : β}

theorem get?_eq_some_iff : d.get? name = some value ↔ (name, value) ∈ d.entries :=
  Entries.find?_eq_some_iff d.ordered

/-- A dictionary is determined by what is found under each name. -/
theorem ext_get? (h : ∀ name, d.get? name = d'.get? name) : d = d' := by
  obtain ⟨es, hes⟩ := d
  obtain ⟨es', hes'⟩ := d'
  obtain rfl := Entries.ext_find? hes hes' h
  rfl

theorem mem_names_iff : name ∈ d.names ↔ ∃ value, d.get? name = some value := by
  simp [names, get?_eq_some_iff]

theorem names_ascending (d : Dictionary β) : d.names.Pairwise (· < ·) :=
  List.pairwise_map.2 d.ordered

theorem length_names (d : Dictionary β) : d.names.length = d.size := List.length_map _

theorem entries_ofList (pairs : List (String × β)) :
    (ofList pairs).entries = pairs.foldl (fun es pair => Entries.put pair.1 pair.2 es) [] :=
  (List.foldl_hom entries fun _ _ => rfl).symm

theorem get?_ofList (pairs : List (String × β)) :
    (ofList pairs).get? name = some value ↔ LastUnder name value pairs := by
  rw [get?, entries_ofList, Entries.find?_foldl_put]

/-- The first value that a partial function takes is the one under the least name. -/
theorem findSome?_values (d : Dictionary β) (f : β → Option γ) (x : γ) :
    d.values.findSome? f = some x ↔
      ∃ name value, d.get? name = some value ∧ f value = some x ∧
        ∀ other old, other < name → d.get? other = some old → f old = none := by
  rw [values, List.findSome?_map, show f ∘ Prod.snd = fun e : String × β => f e.2 from rfl,
    Entries.findSome?_eq_some_iff d.ordered]
  simp only [get?_eq_some_iff]
  constructor
  · rintro ⟨name, value, hMem, hTakes, hLeast⟩
    exact ⟨name, value, hMem, hTakes, fun other old hLess hOther => hLeast _ hOther hLess⟩
  · rintro ⟨name, value, hMem, hTakes, hLeast⟩
    exact ⟨name, value, hMem, hTakes, fun e he hLess => hLeast e.1 e.2 hLess he⟩

/-- Insertions under different names can be exchanged. -/
theorem insert_comm {name other : String} (h : name ≠ other) (value old : β) (d : Dictionary β) :
    (d.insert name value).insert other old = (d.insert other old).insert name value := by
  refine ext_get? fun found => ?_
  simp only [get?_insert]
  by_cases hName : found = name
  · subst hName
    simp [h]
  · simp [hName]

end Dictionary

end GeoFilter
