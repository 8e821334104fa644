import GeoFilter.Text.Letters
import Mathlib

set_option autoImplicit false

/-! # Tests that ignore letter case

Upper case moves the 26 small letters of ASCII and nothing else, so whether a test of characters
ignores letter case is checked on those. Such a test cuts a text and the text in upper case at the
same places. -/

namespace GeoFilter.Text

/-- A test does not tell a character from the same character in upper case. -/
def IgnoresCase (test : Char → Bool) : Prop := ∀ c : Char, test c.toUpper = test c

theorem toUpper_eq_or_small (c : Char) :
    c.toUpper = c ∨ ∃ k : Fin 26, c = Char.ofNat (97 + k) := by
  by_cases hc : c.isLower
  · simp only [Char.isLower, Bool.and_eq_true, decide_eq_true_eq, ge_iff_le,
      UInt32.le_iff_toNat_le] at hc
    have hLow : 97 ≤ c.toNat := hc.1
    have hHigh : c.toNat ≤ 122 := hc.2
    refine .inr ⟨⟨c.toNat - 97, by omega⟩, ?_⟩
    dsimp only
    rw [Nat.add_sub_cancel' hLow, Char.ofNat_toNat]
  · exact .inl (Char.toUpper_eq_of_not_isLower hc)

theorem ignoresCase_iff {test : Char → Bool} :
    IgnoresCase test ↔
      ∀ k : Fin 26, test (Char.ofNat (97 + k)).toUpper = test (Char.ofNat (97 + k)) := by
  constructor
  · exact fun h k => h _
  · intro h c
    rcases toUpper_eq_or_small c with hc | ⟨k, rfl⟩
    · rw [hc]
    · exact h k

instance (test : Char → Bool) : Decidable (IgnoresCase test) :=
  decidable_of_iff _ ignoresCase_iff.symm

variable {test : Char → Bool}

theorem takeWhile_upper (h : IgnoresCase test) (cs : List Char) :
    (cs.map Char.toUpper).takeWhile test = (cs.takeWhile test).map Char.toUpper := by
  rw [List.takeWhile_map, show test ∘ Char.toUpper = test from funext h]

theorem dropWhile_upper (h : IgnoresCase test) (cs : List Char) :
    (cs.map Char.toUpper).dropWhile test = (cs.dropWhile test).map Char.toUpper := by
  rw [List.dropWhile_map, show test ∘ Char.toUpper = test from funext h]

/-- A mark that is no letter is the upper case of itself only. -/
theorem toUpper_eq_iff {m : Char} (h : IgnoresCase (· == m)) (c : Char) :
    c.toUpper = m ↔ c = m := by
  have hTest : (c.toUpper == m) = (c == m) := h c
  rw [← beq_iff_eq, hTest, beq_iff_eq]

theorem upper_upper (cs : List Char) :
    (cs.map Char.toUpper).map Char.toUpper = cs.map Char.toUpper := by
  rw [List.map_map]
  exact List.map_congr_left fun c _ => Char.toUpper_toUpper_eq_toUpper c

theorem toList_upper (s : String) : (upper s).toList = s.toList.map Char.toUpper :=
  String.toList_ofList

theorem sameLetters_upper (a b : String) : sameLetters a (upper b) = sameLetters a b := by
  rw [sameLetters, toList_upper, upper_upper, sameLetters]

theorem upper_sameLetters (a b : String) : sameLetters (upper a) b = sameLetters a b := by
  rw [sameLetters, toList_upper, upper_upper, sameLetters]

end GeoFilter.Text
