import GeoFilter.Proofs.Geometry.ReadBack
import GeoFilter.Proofs.Printer.Number

set_option autoImplicit false

/-! # Printed geometries

A geometry is printed as the word for its type and EMPTY or a body in parentheses. The
parentheses of the body match, so the literal ends where the body does; and its letters are in
upper case, so the lexer hands on the text that was printed. -/

namespace GeoFilter

namespace Wkt

/-- A character that is no parenthesis and that upper case leaves as it is. -/
def isPlainMark (c : Char) : Bool := c != '(' && c != ')' && c.toUpper == c

/-- A fragment of geometry text: its parentheses match and its letters are in upper case. -/
inductive Fragment : List Char → Prop where
  | nil : Fragment []
  | mark {c : Char} {cs : List Char} (hPlain : isPlainMark c) (h : Fragment cs) :
      Fragment (c :: cs)
  | enclosed {cs cs' : List Char} (h : Fragment cs) (h' : Fragment cs') :
      Fragment ('(' :: (cs ++ ')' :: cs'))

theorem Fragment.append {cs cs' : List Char} (h : Fragment cs) (h' : Fragment cs') :
    Fragment (cs ++ cs') := by
  induction h with
  | nil => exact h'
  | mark hPlain _ ih => exact .mark hPlain ih
  | enclosed h _ _ ih =>
    rw [List.cons_append, List.append_assoc, List.cons_append]
    exact .enclosed h ih

theorem Fragment.upper {cs : List Char} (h : Fragment cs) : cs.map Char.toUpper = cs := by
  induction h with
  | nil => rfl
  | mark hPlain _ ih =>
    simp only [isPlainMark, Bool.and_eq_true, beq_iff_eq] at hPlain
    rw [List.map_cons, hPlain.2, ih]
  | enclosed _ _ ih ih' =>
    rewrite [List.map_cons, List.map_append, List.map_cons, ih, ih']
    rfl

/-- Matching parentheses are passed over, however many are open. -/
theorem Fragment.closingLength {cs : List Char} (h : Fragment cs) (depth : ℕ) (more : List Char) :
    Cql.closingLength depth (cs ++ more) = (Cql.closingLength depth more).map (· + cs.length) := by
  induction h generalizing depth more with
  | nil => simp
  | mark hPlain _ ih =>
    simp only [isPlainMark, Bool.and_eq_true, bne_iff_ne] at hPlain
    rw [List.cons_append, Cql.closingLength_cons, if_neg hPlain.1.1, if_neg hPlain.1.2, ih]
    simp
  -- A pair inside opens one more parenthesis and closes it before the rest is scanned.
  | @enclosed cs cs' _ _ ih ih' =>
    rw [List.cons_append, Cql.closingLength_cons, if_pos rfl, List.append_assoc, ih,
      List.cons_append, Cql.closingLength_cons, if_neg (by decide), if_pos rfl]
    dsimp only
    rw [ih']
    simp [Nat.add_comm, Nat.add_left_comm]

theorem fragment_of_all {cs : List Char} (h : cs.all isPlainMark) : Fragment cs := by
  induction cs with
  | nil => exact .nil
  | cons c cs ih =>
    rw [List.all_cons, Bool.and_eq_true] at h
    exact .mark h.1 (ih h.2)

/-! ## Lists of parts -/

theorem fragment_commas {parts : List (List Char)} (h : ∀ part ∈ parts, Fragment part) :
    Fragment (commas parts) := by
  induction parts with
  | nil => exact .nil
  | cons part parts ih =>
    have hFirst := h part List.mem_cons_self
    have hOthers := ih fun part' hMem => h part' (List.mem_cons_of_mem part hMem)
    cases parts with
    | nil => exact hFirst
    | cons next parts => exact hFirst.append (.mark (by decide) hOthers)

theorem fragment_group {parts : List (List Char)} (h : ∀ part ∈ parts, Fragment part) :
    Fragment (group parts) := .enclosed (fragment_commas h) .nil

/-- All items of a list are written as parts. -/
theorem fragment_of_map {α : Type} {text : α → List Char} {items : List α}
    (h : ∀ item ∈ items, Fragment (text item)) : ∀ part ∈ items.map text, Fragment part := by
  intro part hMem
  obtain ⟨item, hItem, rfl⟩ := List.mem_map.1 hMem
  exact h item hItem

theorem fragment_tagged {word : String} (hWord : word ∈ Cql.geometryWords)
    {parts : List (List Char)} (h : ∀ part ∈ parts, Fragment part) :
    Fragment (tagged word parts) := by
  have hLetters : ∀ w ∈ Cql.geometryWords, w.toList.all isPlainMark = true := by decide
  have hText := fragment_of_all (hLetters word hWord)
  unfold tagged
  split
  · exact hText.append (fragment_of_all (by decide))
  · exact hText.append (fragment_group h)

/-! ## Coordinates -/

theorem fragment_digits {cs : List Char} (h : Number.AllDigits cs) : Fragment cs := by
  have hDigits : ∀ k : Fin 10, isPlainMark (Char.ofNat (48 + k)) = true := by decide
  refine fragment_of_all (List.all_eq_true.2 ?_)
  intro c hc
  obtain ⟨k, rfl⟩ := Cql.eq_of_isDigit (h c hc)
  exact hDigits k

open Number in
theorem fragment_positional {x : Float} (h : x.isFinite = true) :
    Fragment (positional x).toList := by
  obtain ⟨⟨whole, fraction, hSpells⟩, -⟩ := magnitudeText_reads (isFinite_iff.1 h)
  have hMagnitude : Fragment (magnitudeText (code x)) := by
    rw [hSpells.eq]
    unfold pointed
    split
    · exact fragment_digits hSpells.whole
    · exact (fragment_digits hSpells.whole).append
        (.mark (by decide) (fragment_digits hSpells.fraction))
  unfold positional
  rw [shape_of_isFinite h]
  dsimp only
  rw [String.toList_ofList]
  split
  · exact .mark (by decide) hMagnitude
  · exact hMagnitude

theorem fragment_coordText {c : Coord} (h : c.isFinite = true) : Fragment (coordText c) := by
  unfold Coord.isFinite at h
  rw [Bool.and_eq_true] at h
  exact (fragment_positional h.1).append (.mark (by decide) (fragment_positional h.2))

theorem fragment_pathText {path : Path} (h : path.Finite) : Fragment (pathText path) :=
  fragment_group (fragment_of_map fun c hc => fragment_coordText (h c hc))

theorem finite_of_rings {shape : Polygon} (h : shape.Finite) :
    ∀ path ∈ rings shape, Path.Finite path := by
  unfold rings
  split
  · exact h.2
  · intro path hPath
    rcases List.mem_cons.1 hPath with rfl | hPath
    · exact h.1
    · exact h.2 path hPath

theorem fragment_rings {shape : Polygon} (h : shape.Finite) :
    ∀ part ∈ (rings shape).map pathText, Fragment part :=
  fragment_of_map fun path hPath => fragment_pathText (finite_of_rings h path hPath)

theorem fragment_polygonText {shape : Polygon} (h : shape.Finite) :
    Fragment (polygonText shape) := by
  refine fragment_group ?_
  split
  · intro part hMem
    obtain rfl := List.mem_singleton.1 hMem
    exact fragment_pathText fun _ hc => nomatch hc
  · exact fragment_rings h

end Wkt

/-! ## The text of a geometry -/

namespace Geometry

open Wkt

/-- The text is the word for a type with parts after it. -/
def IsTagged (cs : List Char) : Prop :=
  ∃ word parts, word ∈ Cql.geometryWords ∧ (∀ part ∈ parts, Fragment part) ∧
    cs = tagged word parts

theorem IsTagged.fragment {cs : List Char} (h : IsTagged cs) : Fragment cs := by
  obtain ⟨word, parts, hWord, hParts, rfl⟩ := h
  exact fragment_tagged hWord hParts

theorem fragment_corners {cs : List Coord} (h : ∀ c ∈ cs, c.isFinite = true) :
    ∀ part ∈ cs.map coordText, Fragment part :=
  fragment_of_map fun c hc => fragment_coordText (h c hc)

theorem fragment_ring {ring : Path} (h : ring.Finite) :
    ∀ part ∈ [pathText ring], Fragment part := by
  intro part hMem
  rw [List.mem_singleton.1 hMem]
  exact fragment_pathText h

mutual

theorem isTagged_wktChars : (g : Geometry) → g.Finite → IsTagged g.wktChars
  | point position, h => by
    refine ⟨"POINT", [position].map coordText, by decide, fragment_corners ?_, rfl⟩
    rintro c hc
    rw [List.mem_singleton.1 hc]
    exact h
  | line start finish, h => by
    refine ⟨"LINESTRING", [start, finish].map coordText, by decide, fragment_corners ?_, rfl⟩
    simp only [List.forall_mem_cons, List.not_mem_nil, false_imp_iff, implies_true, and_true]
    exact h
  | lineString path, h => ⟨"LINESTRING", path.map coordText, by decide, fragment_corners h, rfl⟩
  | polygon shape, h => ⟨"POLYGON", (rings shape).map pathText, by decide, fragment_rings h, rfl⟩
  | multiPoint positions, h => by
    refine ⟨"MULTIPOINT", positions.map fun c => group [coordText c], by decide, ?_, rfl⟩
    refine fragment_of_map fun c hc => fragment_group ?_
    intro part hMem
    rw [List.mem_singleton.1 hMem]
    exact fragment_coordText (h c hc)
  | multiLineString paths, h =>
    ⟨"MULTILINESTRING", paths.map pathText, by decide,
      fragment_of_map fun path hPath => fragment_pathText (h path hPath), rfl⟩
  | multiPolygon shapes, h =>
    ⟨"MULTIPOLYGON", shapes.map polygonText, by decide,
      fragment_of_map fun shape hShape => fragment_polygonText (h shape hShape), rfl⟩
  | collection members, h =>
    ⟨"GEOMETRYCOLLECTION", memberChars members, by decide, fragment_memberChars members h, rfl⟩
  | rect low high, h => by
    refine ⟨"POLYGON", _, by decide, fragment_ring ?_, rfl⟩
    obtain ⟨hLow, hHigh⟩ := h
    simp only [Coord.isFinite, Bool.and_eq_true] at hLow hHigh
    simp [Path.Finite, Coord.isFinite, hLow, hHigh]
  | triangle a b c, h => by
    refine ⟨"POLYGON", _, by decide, fragment_ring ?_, rfl⟩
    obtain ⟨ha, hb, hc⟩ := h
    simp [Path.Finite, ha, hb, hc]

theorem fragment_memberChars :
    (gs : List Geometry) → FiniteMembers gs → ∀ part ∈ memberChars gs, Fragment part
  | [], _ => fun _ hMem => nomatch hMem
  | member :: rest, h => by
    intro part hMem
    rcases List.mem_cons.1 hMem with rfl | hMem
    · exact (isTagged_wktChars member h.1).fragment
    · exact fragment_memberChars rest h.2 part hMem

end

end Geometry

/-! ## The token of a geometry -/

namespace Cql

open Wkt

theorem literalTail_empty : literalTail " EMPTY".toList = .length " EMPTY".toList.length := rfl

/-- The body of a literal ends with the parenthesis that closes it. -/
theorem literalTail_group {body : List Char} (h : Fragment body) :
    literalTail ('(' :: (body ++ [')'])) = .length ('(' :: (body ++ [')'])).length := by
  have hStart : bodyStart ('(' :: (body ++ [')'])) = 0 := by
    cases body ++ [')'] <;> rfl
  have hClosing : closingLength 0 (body ++ [')']) = some (1 + body.length) :=
    h.closingLength 0 [')']
  rw [literalTail_eq, hStart, List.drop_zero, bodyTail_opening, hClosing]
  simp only [List.length_cons, List.length_append, List.length_nil, LiteralTail.length.injEq]
  omega

/-- A word for a type and what makes it a literal are one token. -/
theorem scan_literal {word : String} (hWord : word ∈ geometryWords) {tail : List Char}
    (hStops : ∀ c ∈ tail.head?, continuesWord c = false)
    (hTail : literalTail tail = .length tail.length) :
    ∃ first rest, word.toList ++ tail = first :: rest ∧
      scan first rest = some (.geometry (String.ofList (word.toList ++ tail)), rest.length) := by
  -- The words are a fixed list, so what the lexer asks of them is checked one by one.
  have hWords : ∀ w ∈ geometryWords, ∃ first rest, w.toList = first :: rest ∧ startsWord first ∧
      rest.all continuesWord ∧ isGeometryWord w := by
    intro w hw
    simp only [geometryWords, List.mem_cons, List.not_mem_nil, or_false] at hw
    rcases hw with rfl | rfl | rfl | rfl | rfl | rfl | rfl <;>
      exact ⟨_, _, rfl, by decide, by decide, by decide⟩
  obtain ⟨first, rest, hText, hFirst, hRest, hGeometry⟩ := hWords word hWord
  rw [List.all_eq_true] at hRest
  have hOfList : String.ofList (first :: rest) = word := by rw [← hText, String.ofList_toList]
  have hRun : runLength continuesWord (rest ++ tail) = rest.length := by
    rw [runLength_append hStops, runLength_eq_length hRest]
  refine ⟨first, rest ++ tail, by rw [hText]; rfl, ?_⟩
  rw [scan_of_startsWord hFirst, scanWord_eq]
  simp only [hRun, List.take_left, List.drop_left, hOfList, hGeometry, if_true, hTail, hText]
  rw [← List.length_append, List.take_length, List.cons_append]

theorem yields_geometry {g : Geometry} (h : g.Finite) : Yields g.wktChars [.geometry g.toWkt] := by
  obtain ⟨word, parts, hWord, hParts, hText⟩ := Geometry.isTagged_wktChars g h
  have hScan : ∃ first rest, g.wktChars = first :: rest ∧
      scan first rest = some (.geometry g.toWkt, rest.length) := by
    unfold Geometry.toWkt
    rw [hText]
    unfold tagged
    split
    · have hStops : ∀ c ∈ (" EMPTY".toList).head?, continuesWord c = false := by
        intro c hc
        obtain rfl := Option.some.inj hc
        decide
      exact scan_literal hWord hStops literalTail_empty
    · have hStops : ∀ c ∈ (group parts).head?, continuesWord c = false := by
        intro c hc
        obtain rfl := Option.some.inj hc
        decide
      exact scan_literal hWord hStops (literalTail_group (fragment_commas hParts))
  obtain ⟨first, rest, hChars, hScan⟩ := hScan
  rw [hChars]
  exact yields_token hScan fun _ hKind => nomatch hKind

/-- A geometry that reads back is printed as a literal for an equal geometry. -/
theorem geometry_reads {g : Geometry} (h : g.ReadsBack) :
    ∃ ks g', Yields g.wktChars ks ∧ Grammar.Arithmetic .primary 0 ks (.literal (.geometry g')) ∧
      g'.same g = true := by
  obtain ⟨hFinite, -⟩ := h.finite
  obtain ⟨g', hRead, hSame⟩ := h
  -- The parser reads the text in upper case, which it already is.
  have hUpper : Text.upper g.toWkt = g.toWkt := by
    unfold Text.upper Geometry.toWkt
    rw [String.toList_ofList, (Geometry.isTagged_wktChars g hFinite).fragment.upper]
  refine ⟨_, g', yields_geometry hFinite, .geometry ?_, hSame⟩
  rw [hUpper, hRead]

end Cql

end GeoFilter
