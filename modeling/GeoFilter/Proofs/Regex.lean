import GeoFilter.Regex
import Mathlib.Data.List.Basic

set_option autoImplicit false

/-! # What expressions match

Where an expression matches is told by a relation between its parts, the characters that they take,
and the characters before and after those. Matching decides this relation: it finds an expression in
a text exactly if the parts take some piece of the text. The characters of an escaped text are read
as tests for these characters, whatever they are. -/

namespace GeoFilter.Regex

/-! ## The language of an expression -/

/-- A part takes a piece of a text that stands between the characters before and after it. -/
inductive Part.Takes : Part → List Char → List Char → List Char → Prop where
  | textStart (after : List Char) : Takes textStart [] [] after
  | textEnd (before : List Char) : Takes textEnd before [] []
  | one {test : CharTest} {c : Char} (before after : List Char) (h : test.holds c = true) :
      Takes (one test) before [c] after
  | many {test : CharTest} {piece : List Char} (before after : List Char)
      (h : ∀ c ∈ piece, test.holds c = true) : Takes (many test) before piece after

/-- The parts take a piece, one after the other. -/
inductive Takes : List Part → List Char → List Char → List Char → Prop where
  | nil (before after : List Char) : Takes [] before [] after
  | cons {part : Part} {parts : List Part} {before first rest after : List Char}
      (h : part.Takes before first (rest ++ after))
      (hRest : Takes parts (before ++ first) rest after) :
      Takes (part :: parts) before (first ++ rest) after

/-- The parts take a piece at the start of `rest`, before which `before` stands. -/
def MatchesAt (parts : List Part) (before rest : List Char) : Prop :=
  ∃ piece after, rest = piece ++ after ∧ Takes parts before piece after

/-- A part takes a piece, and after it a property holds. -/
def Part.Then (part : Part) (P : List Char → List Char → Prop) (before rest : List Char) : Prop :=
  ∃ piece after, rest = piece ++ after ∧ part.Takes before piece after ∧ P (before ++ piece) after

theorem matchesAt_nil (before rest : List Char) : MatchesAt [] before rest :=
  ⟨[], rest, rfl, .nil before rest⟩

theorem matchesAt_cons (part : Part) (parts : List Part) (before rest : List Char) :
    MatchesAt (part :: parts) before rest ↔ part.Then (MatchesAt parts) before rest := by
  constructor
  · rintro ⟨_, after, rfl, h⟩
    cases h with
    | @cons _ _ _ first piece _ h hRest =>
      exact ⟨first, piece ++ after, List.append_assoc .., h, piece, after, rfl, hRest⟩
  · rintro ⟨first, _, rfl, h, piece, after, rfl, hRest⟩
    exact ⟨first ++ piece, after, (List.append_assoc ..).symm, .cons h hRest⟩

namespace Part

variable {P : List Char → List Char → Prop} {test : CharTest} {before rest cs : List Char}
  {c : Char}

theorem then_textStart : textStart.Then P before rest ↔ before = [] ∧ P [] rest := by
  constructor
  · rintro ⟨_, _, rfl, ⟨⟩, h⟩
    exact ⟨rfl, h⟩
  · rintro ⟨rfl, h⟩
    exact ⟨[], rest, rfl, .textStart rest, h⟩

theorem then_textEnd : textEnd.Then P before rest ↔ rest = [] ∧ P before [] := by
  constructor
  · rintro ⟨_, _, rfl, ⟨⟩, h⟩
    exact ⟨rfl, by simpa using h⟩
  · rintro ⟨rfl, h⟩
    exact ⟨[], [], rfl, .textEnd before, by simpa using h⟩

theorem not_then_one_nil : ¬ (one test).Then P before [] := by
  rintro ⟨_, _, hRest, ⟨⟩, -⟩
  exact nomatch hRest

theorem then_one_cons :
    (one test).Then P before (c :: cs) ↔ test.holds c = true ∧ P (before ++ [c]) cs := by
  constructor
  · rintro ⟨_, _, hRest, hTakes, h⟩
    cases hTakes with
    | one _ _ hHolds =>
      obtain ⟨rfl, rfl⟩ := List.cons.inj hRest
      exact ⟨hHolds, h⟩
  · rintro ⟨hHolds, h⟩
    exact ⟨[c], cs, rfl, .one before cs hHolds, h⟩

theorem then_many_nil : (many test).Then P before [] ↔ P before [] := by
  constructor
  · rintro ⟨piece, after, hRest, -, h⟩
    obtain ⟨rfl, rfl⟩ := List.append_eq_nil_iff.1 hRest.symm
    simpa using h
  · intro h
    exact ⟨[], [], rfl, .many before [] (List.forall_mem_nil _), by simpa using h⟩

/-- A run stops here, or goes on with the next character. -/
theorem then_many_cons :
    (many test).Then P before (c :: cs) ↔
      P before (c :: cs) ∨ test.holds c = true ∧ (many test).Then P (before ++ [c]) cs := by
  constructor
  · rintro ⟨piece, after, hRest, hTakes, h⟩
    cases hTakes with
    | many _ _ hHolds =>
      cases piece with
      | nil =>
        rw [hRest]
        exact .inl (by simpa using h)
      | cons d piece =>
        obtain ⟨rfl, rfl⟩ := List.cons.inj hRest
        rw [List.forall_mem_cons] at hHolds
        exact .inr ⟨hHolds.1, piece, after, rfl, .many _ _ hHolds.2, by simpa using h⟩
  · rintro (h | ⟨hHolds, piece, after, rfl, hTakes, h⟩)
    · exact ⟨[], c :: cs, rfl, .many _ _ (List.forall_mem_nil _), by simpa using h⟩
    · cases hTakes with
      | many _ _ hPiece =>
        refine ⟨c :: piece, after, rfl, .many _ _ ?_, by simpa using h⟩
        rw [List.forall_mem_cons]
        exact ⟨hHolds, hPiece⟩

end Part

/-! ## Matching decides it -/

/-- The entries tell for each suffix of a text, the longest first, whether a property holds
    there. -/
inductive Tells (P : List Char → List Char → Prop) : List Char → List Char → List Bool → Prop where
  | nil {before : List Char} {b : Bool} (h : b = true ↔ P before []) : Tells P before [] [b]
  | cons {before cs : List Char} {c : Char} {b : Bool} {bs : List Bool}
      (h : b = true ↔ P before (c :: cs)) (hRest : Tells P (before ++ [c]) cs bs) :
      Tells P before (c :: cs) (b :: bs)

variable {P Q : List Char → List Char → Prop} {before text : List Char} {bs : List Bool}

theorem Tells.headD (h : Tells P before text bs) : bs.headD false = true ↔ P before text := by
  cases h with
  | nil h => exact h
  | cons h _ => exact h

theorem Tells.congr (h : Tells P before text bs)
    (hPQ : ∀ before rest, P before rest ↔ Q before rest) : Tells Q before text bs := by
  induction h with
  | nil h => exact .nil (h.trans (hPQ _ _))
  | cons h _ ih => exact .cons (h.trans (hPQ _ _)) ih

theorem Tells.any (h : Tells P before text bs) :
    bs.any id = true ↔ ∃ skipped rest, text = skipped ++ rest ∧ P (before ++ skipped) rest := by
  induction h with
  | @nil before b h =>
    rw [List.any_cons, List.any_nil, Bool.or_false, id_eq, h]
    constructor
    · intro hHere
      exact ⟨[], [], rfl, by simpa using hHere⟩
    · rintro ⟨skipped, rest, hText, hThere⟩
      obtain ⟨rfl, rfl⟩ := List.append_eq_nil_iff.1 hText.symm
      simpa using hThere
  | @cons before cs c b bs h _ ih =>
    rw [List.any_cons, Bool.or_eq_true, id_eq, h, ih]
    constructor
    · rintro (hHere | ⟨skipped, rest, rfl, hThere⟩)
      · exact ⟨[], c :: cs, rfl, by simpa using hHere⟩
      · exact ⟨c :: skipped, rest, rfl, by simpa using hThere⟩
    · rintro ⟨skipped, rest, hText, hThere⟩
      cases skipped with
      | nil =>
        rw [hText]
        exact .inl (by simpa using hThere)
      | cons d skipped =>
        obtain ⟨rfl, rfl⟩ := List.cons.inj hText
        exact .inr ⟨skipped, rest, rfl, by simpa using hThere⟩

/-- Adding a part in front keeps the entries right. -/
theorem Tells.extend (part : Part) {atStart : Bool} (h : Tells P before text bs)
    (hStart : atStart = true ↔ before = []) :
    Tells (part.Then P) before text (part.extend atStart text bs) := by
  induction h generalizing atStart with
  | @nil before b h =>
    cases part with
    | textStart =>
      refine .nil ?_
      rw [Part.then_textStart, Bool.and_eq_true, hStart, h]
      exact and_congr_right fun hBefore => by rw [hBefore]
    | textEnd => exact .nil (by simp [Part.then_textEnd, h])
    | one test => exact .nil (by simp [Part.not_then_one_nil])
    | many test => exact .nil (by rw [Part.then_many_nil, h])
  | @cons before cs c b bs h hRest ih =>
    have hLater := @ih false (by simp)
    cases part with
    | textStart =>
      refine .cons ?_ hLater
      rw [Part.then_textStart, Bool.and_eq_true, hStart, h]
      exact and_congr_right fun hBefore => by rw [hBefore]
    | textEnd => exact .cons (by simp [Part.then_textEnd]) hLater
    | one test => exact .cons (by rw [Part.then_one_cons, Bool.and_eq_true, hRest.headD]) hLater
    | many test =>
      refine .cons ?_ hLater
      rw [Part.then_many_cons, Bool.or_eq_true, Bool.and_eq_true, hLater.headD, h]

theorem tells_matchSuffixes (parts : List Part) (text : List Char) :
    Tells (MatchesAt parts) [] text (matchSuffixes text parts) := by
  induction parts with
  | nil =>
    -- Nothing has to match, so that every entry is true.
    have hAll : ∀ before cs,
        Tells (MatchesAt []) before cs (List.replicate (cs.length + 1) true) := by
      intro before cs
      induction cs generalizing before with
      | nil => exact .nil (by simp [matchesAt_nil])
      | cons c cs ih => exact .cons (by simp [matchesAt_nil]) (ih _)
    exact hAll [] text
  | cons part parts ih =>
    refine (ih.extend part (by simp)).congr ?_
    intro before rest
    exact (matchesAt_cons part parts before rest).symm

/-- An expression is found in a text exactly if its parts take some piece of the text. -/
theorem isMatch_iff (parts : List Part) (text : List Char) :
    isMatch parts text = true ↔
      ∃ before piece after, text = before ++ (piece ++ after) ∧ Takes parts before piece after := by
  rw [isMatch, (tells_matchSuffixes parts text).any]
  constructor
  · rintro ⟨before, _, rfl, piece, after, rfl, h⟩
    exact ⟨before, piece, after, rfl, h⟩
  · rintro ⟨before, piece, after, rfl, h⟩
    exact ⟨before, piece ++ after, rfl, piece, after, rfl, h⟩

/-! ## Reading escaped text -/

/-- What follows does not make a test of one character a test of any number. -/
def NotRepeated (more : List Char) : Prop := more.head? ≠ some '*'

theorem notRepeated_cons {c : Char} (h : c ≠ '*') (more : List Char) : NotRepeated (c :: more) := by
  simpa [NotRepeated] using h

variable {dot : CharTest} {groups : Nat} {parts : List Part} {c : Char} {more : List Char}

theorem readParts_points :
    readParts dot groups parts ('.' :: '*' :: more)
      = readParts dot groups (.many dot :: parts) more := rfl

theorem readParts_point (hMore : NotRepeated more) :
    readParts dot groups parts ('.' :: more) = readParts dot groups (.one dot :: parts) more := by
  cases more with
  | nil => rfl
  | cons d more =>
    have hd : d ≠ '*' := by simpa [NotRepeated] using hMore
    simp [readParts, hd]

theorem readParts_mark (hMark : isMark c = true) (hMore : NotRepeated more) :
    readParts dot groups parts ('\\' :: c :: more)
      = readParts dot groups (.one (.exactly c) :: parts) more := by
  cases more with
  | nil => simp [readParts, hMark]
  | cons d more =>
    have hd : d ≠ '*' := by simpa [NotRepeated] using hMore
    simp [readParts, hMark, hd]

theorem readParts_plain (hPlain : isMark c = false) (hMore : NotRepeated more) :
    readParts dot groups parts (c :: more)
      = readParts dot groups (.one (.exactly c) :: parts) more := by
  simp only [isMark, List.contains_eq_mem, List.mem_cons, List.not_mem_nil, or_false,
    Bool.decide_or, Bool.or_eq_false_iff, decide_eq_false_iff_not] at hPlain
  cases more with
  | nil => simp [readParts, hPlain, isMark]
  | cons d more =>
    have hd : d ≠ '*' := by simpa [NotRepeated] using hMore
    simp [readParts, hPlain, hd, isMark]

theorem escape_cons (c : Char) (cs : List Char) :
    escape (c :: cs) = if isMark c then '\\' :: c :: escape cs else c :: escape cs := by
  rw [escape, List.flatMap_cons]
  split <;> rfl

theorem notRepeated_escape (cs : List Char) (hMore : NotRepeated more) :
    NotRepeated (escape cs ++ more) := by
  cases cs with
  | nil => exact hMore
  | cons c cs =>
    rw [escape_cons]
    split
    · exact notRepeated_cons (by decide) _
    · next hPlain =>
      refine notRepeated_cons ?_ _
      rintro rfl
      exact hPlain rfl

/-- Each character of an escaped text is read as a test for that character. -/
theorem readParts_escape (cs : List Char) (hMore : NotRepeated more) :
    readParts dot groups parts (escape cs ++ more)
      = readParts dot groups ((cs.map fun c => .one (.exactly c)).reverse ++ parts) more := by
  induction cs generalizing parts with
  | nil => rfl
  | cons c cs ih =>
    have hRest := notRepeated_escape cs hMore
    have hParts : ((c :: cs).map fun c => Part.one (.exactly c)).reverse ++ parts
        = (cs.map fun c => .one (.exactly c)).reverse ++ .one (.exactly c) :: parts := by simp
    rw [hParts, ← ih, escape_cons]
    split
    · next hMark => exact readParts_mark hMark hRest
    · next hPlain => exact readParts_plain (by simpa using hPlain) hRest

end GeoFilter.Regex
