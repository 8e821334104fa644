set_option autoImplicit false

/-! # Sorting without repetition

The elements of a list in order, each one once. For an order in which any two different elements
compare one way only, the result depends on the elements alone and not on where they stood. -/

namespace GeoFilter

/-- Puts an element before the first one that it comes before, unless it is there already. -/
def insertSorted {α : Type} [DecidableEq α] (le : α → α → Bool) (a : α) : List α → List α
  | [] => [a]
  | b :: bs =>
    if a = b then b :: bs
    else if le a b then a :: b :: bs
    else b :: insertSorted le a bs

/-- The elements of a list in order, each one once. -/
def sorted {α : Type} [DecidableEq α] (le : α → α → Bool) (as : List α) : List α :=
  as.foldr (insertSorted le) []

/-! ## What is sorted, and how -/

section

variable {α : Type} [DecidableEq α] {le : α → α → Bool}

theorem mem_insertSorted {a x : α} {as : List α} :
    x ∈ insertSorted le a as ↔ x = a ∨ x ∈ as := by
  induction as with
  | nil => simp [insertSorted]
  | cons b bs ih =>
    rw [insertSorted]
    split
    next hEq =>
      subst hEq
      simp
    next =>
      split
      · exact List.mem_cons
      · rw [List.mem_cons, ih, List.mem_cons]
        exact or_left_comm

theorem mem_sorted {x : α} {as : List α} : x ∈ sorted le as ↔ x ∈ as := by
  induction as with
  | nil => rfl
  | cons a as ih =>
    show x ∈ insertSorted le a (sorted le as) ↔ x ∈ a :: as
    rw [mem_insertSorted, ih, List.mem_cons]

/-- A list is strictly ascending if every element comes before the ones after it and differs from
    them. -/
def Ascending (le : α → α → Bool) (as : List α) : Prop :=
  as.Pairwise fun a b => le a b ∧ a ≠ b

theorem ascending_insertSorted (htrans : ∀ a b c, le a b → le b c → le a c)
    (htotal : ∀ a b, le a b ∨ le b a) (hantisymm : ∀ a b, le a b → le b a → a = b) (a : α)
    {as : List α} (h : Ascending le as) : Ascending le (insertSorted le a as) := by
  induction as with
  | nil => simp [insertSorted, Ascending]
  | cons b bs ih =>
    obtain ⟨hb, hbs⟩ := List.pairwise_cons.1 h
    rw [insertSorted]
    split
    next => exact h
    next hne =>
      split
      next hle =>
        refine List.pairwise_cons.2 ⟨?_, h⟩
        intro x hx
        rcases List.mem_cons.1 hx with rfl | hx
        · exact ⟨hle, hne⟩
        · obtain ⟨hbx, hne'⟩ := hb x hx
          refine ⟨htrans a b x hle hbx, ?_⟩
          rintro rfl
          exact hne (hantisymm a b hle hbx)
      next hnle =>
        refine List.pairwise_cons.2 ⟨?_, ih hbs⟩
        intro x hx
        rcases mem_insertSorted.1 hx with rfl | hx
        · exact ⟨(htotal x b).resolve_left hnle, fun heq => hne heq.symm⟩
        · exact hb x hx

theorem ascending_sorted (htrans : ∀ a b c, le a b → le b c → le a c)
    (htotal : ∀ a b, le a b ∨ le b a) (hantisymm : ∀ a b, le a b → le b a → a = b)
    (as : List α) : Ascending le (sorted le as) := by
  induction as with
  | nil => exact .nil
  | cons a as ih => exact ascending_insertSorted htrans htotal hantisymm a ih

omit [DecidableEq α] in
/-- Two ascending lists of the same elements are one list. -/
theorem Ascending.ext (hantisymm : ∀ a b, le a b → le b a → a = b) {as bs : List α}
    (ha : Ascending le as) (hb : Ascending le bs) (h : ∀ x, x ∈ as ↔ x ∈ bs) : as = bs := by
  have hPerm := (List.perm_ext_iff_of_nodup (ha.imp (·.2)) (hb.imp (·.2))).2 h
  exact hPerm.eq_of_pairwise (fun a b _ _ hab hba => hantisymm a b hab.1 hba.1) ha hb

/-- Sorting looks at the elements alone. -/
theorem sorted_eq_sorted (htrans : ∀ a b c, le a b → le b c → le a c)
    (htotal : ∀ a b, le a b ∨ le b a) (hantisymm : ∀ a b, le a b → le b a → a = b)
    {as bs : List α} (h : ∀ x, x ∈ as ↔ x ∈ bs) : sorted le as = sorted le bs := by
  have hAscending := ascending_sorted htrans htotal hantisymm
  refine (hAscending as).ext hantisymm (hAscending bs) fun x => ?_
  rw [mem_sorted, mem_sorted]
  exact h x

end

end GeoFilter
