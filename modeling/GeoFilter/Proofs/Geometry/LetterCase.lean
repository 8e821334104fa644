import GeoFilter.Geometry.Wkt.Reader
import GeoFilter.Proofs.Number.LetterCase

set_option autoImplicit false

/-! # Letter case in geometry text

The letters in geometry text are those of its words and of its numbers. Words are compared in
upper case and numbers are read in either case, so text and the same text in upper case are read
as one geometry. -/

namespace GeoFilter

namespace Wkt

open Text

/-! ## Tokens -/

/-- The token with its word in upper case. -/
def Token.upper : Token → Token
  | .word text => .word (Text.upper text)
  | token => token

theorem ofRun_upper (run : List Char) :
    Token.ofRun (run.map Char.toUpper) = (Token.ofRun run).upper := by
  cases run with
  | nil => rfl
  | cons c cs =>
    have hStarts : startsNumber c.toUpper = startsNumber c := by
      have hTest : IgnoresCase startsNumber := by decide
      exact hTest c
    have hPlus := toUpper_eq_iff (m := '+') (by decide) c
    rw [List.map_cons, Token.ofRun, Token.ofRun, hStarts]
    split
    · have hRead : Number.readFloat
            (if c.toUpper = '+' then cs.map Char.toUpper else c.toUpper :: cs.map Char.toUpper)
          = Number.readFloat (if c = '+' then cs else c :: cs) := by
        rw [← Number.readFloat_upper (if c = '+' then cs else c :: cs), apply_ite (List.map _),
          List.map_cons]
        exact congrArg _ (if_congr hPlus rfl rfl)
      rw [hRead]
      split <;> rfl
    · rw [Token.upper, Text.upper, String.toList_ofList, List.map_cons]

theorem gathered_upper (run : List Char) :
    gathered (run.map Char.toUpper) = (gathered run).map Token.upper := by
  rw [gathered, gathered, List.isEmpty_map, ← List.map_reverse, ofRun_upper]
  split <;> rfl

theorem tokensAfter_upper (run cs : List Char) :
    tokensAfter (run.map Char.toUpper) (cs.map Char.toUpper)
      = (tokensAfter run cs).map Token.upper := by
  induction cs generalizing run with
  | nil => exact gathered_upper run
  | cons c cs ih =>
    have hNul : c.toUpper.toNat = 0 ↔ c.toNat = 0 := by
      have hTest : IgnoresCase fun c => decide (c.toNat = 0) := by decide
      exact decide_eq_decide.1 (hTest c)
    have hSpace : isSpace c.toUpper = isSpace c := by
      have hTest : IgnoresCase isSpace := by decide
      exact hTest c
    have hOpening := toUpper_eq_iff (m := '(') (by decide) c
    have hClosing := toUpper_eq_iff (m := ')') (by decide) c
    have hComma := toUpper_eq_iff (m := ',') (by decide) c
    have hNone := ih []
    have hMore := ih (c :: run)
    rw [List.map_nil] at hNone
    rw [List.map_cons] at hMore
    rw [List.map_cons, tokensAfter, tokensAfter]
    simp only [hNul, hSpace, hOpening, hClosing, hComma, hNone, hMore, gathered_upper,
      apply_ite (List.map Token.upper), List.map_append, List.map_cons, Token.upper]

theorem tokens_upper (cs : List Char) :
    tokens (cs.map Char.toUpper) = (tokens cs).map Token.upper :=
  tokensAfter_upper [] cs

/-! ## Readers -/

/-- What a step read, with the words that are left in upper case. -/
def Step.upper {α : Type} (step : Step α) : Step α :=
  step.map fun (a, rest) => (a, rest.map Token.upper)

/-- A reader does not tell the case of the words that it reads. -/
def ReadsUpper {α : Type} (item : List Token → Step α) : Prop :=
  ∀ ts, item (ts.map Token.upper) = Step.upper (item ts)

variable {α β : Type} {item : List Token → Step α}

theorem ReadsUpper.map (h : ReadsUpper item) (f : α → β) :
    ReadsUpper fun ts => (item ts).map fun (a, rest) => (f a, rest) := by
  intro ts
  simp only [h ts]
  cases item ts <;> rfl

theorem readsUpper_readList (h : ReadsUpper item) (limit : ℕ) :
    ReadsUpper (readList item limit) := by
  induction limit with
  | zero => exact fun _ => rfl
  | succ limit ih =>
    intro ts
    rw [readList, readList, h ts]
    -- the list goes on exactly if the token after its first item is a comma
    rcases item ts with _ | ⟨a, _ | ⟨next, rest⟩⟩
    · rfl
    · rfl
    · cases next with
      | comma =>
        show (readList item limit (rest.map Token.upper)).map _ = Step.upper (Option.map _ _)
        rw [ih rest]
        cases readList item limit rest <;> rfl
      | opening | closing | number | word | malformed => rfl

theorem readsUpper_readItems (h : ReadsUpper item) : ReadsUpper (readItems item) := by
  intro ts
  rw [readItems, List.length_map]
  exact readsUpper_readList h ts.length ts

theorem readsUpper_readBody {empty : α} (h : ReadsUpper item) :
    ReadsUpper (readBody empty item) := by
  intro ts
  cases ts with
  | nil => rfl
  | cons token ts =>
    cases token with
    | opening =>
      show readBody empty item (.opening :: ts.map Token.upper) = _
      rw [readBody, readBody, h ts]
      rcases item ts with _ | ⟨a, _ | ⟨next, rest⟩⟩
      · rfl
      · rfl
      · cases next <;> rfl
    | word text =>
      show (if sameLetters (Text.upper text) "EMPTY" then _ else _) = _
      rw [upper_sameLetters, readBody]
      split <;> rfl
    | closing | comma | number | malformed => rfl

/-! ## Parts -/

theorem dropNumbers_upper (count : ℕ) (ts : List Token) :
    dropNumbers count (ts.map Token.upper) = (dropNumbers count ts).map (List.map Token.upper) := by
  induction count generalizing ts with
  | zero => rfl
  | succ count ih =>
    cases ts with
    | nil => rfl
    | cons token ts =>
      cases token with
      | number => exact ih ts
      | opening | closing | comma | word | malformed => rfl

theorem readsUpper_readCoord (extra : ℕ) : ReadsUpper (readCoord extra) := by
  intro ts
  rcases ts with _ | ⟨first, _ | ⟨second, ts⟩⟩
  · rfl
  · cases first <;> rfl
  · cases first with
    | number x =>
      cases second with
      | number y =>
        show (dropNumbers extra (ts.map Token.upper)).map _ = Step.upper (Option.map _ _)
        rw [dropNumbers_upper]
        cases dropNumbers extra ts <;> rfl
      | opening | closing | comma | word | malformed => rfl
    | opening | closing | comma | word | malformed => rfl

theorem readsUpper_readPath (extra : ℕ) : ReadsUpper (readPath extra) :=
  readsUpper_readBody (readsUpper_readItems (readsUpper_readCoord extra))

theorem readsUpper_readPolygon (extra : ℕ) : ReadsUpper (readPolygon extra) :=
  (readsUpper_readBody (readsUpper_readItems (readsUpper_readPath extra))).map _

theorem readsUpper_readMember (extra : ℕ) : ReadsUpper (readMember extra) := by
  intro ts
  have hCoord := readsUpper_readCoord extra
  cases ts with
  | nil => exact hCoord []
  | cons token ts =>
    cases token with
    | opening =>
      show readMember extra (.opening :: ts.map Token.upper) = _
      rw [readMember, readMember, hCoord ts]
      rcases readCoord extra ts with _ | ⟨c, _ | ⟨next, rest⟩⟩
      · rfl
      · rfl
      · cases next <;> rfl
    | number x => exact hCoord (.number x :: ts)
    | closing | comma | word | malformed => rfl

theorem extraOf_upper (text : String) : Kind.extraOf (Text.upper text) = Kind.extraOf text := by
  simp only [Kind.extraOf, upper_sameLetters]

theorem ofWord_upper (text : String) : Kind.ofWord (Text.upper text) = Kind.ofWord text := by
  rw [Kind.ofWord, toList_upper, upper_upper, Kind.ofWord]

theorem readsUpper_readDimension (glued : Option ℕ) : ReadsUpper (readDimension glued) := by
  intro ts
  cases glued with
  | some extra => rfl
  | none =>
    cases ts with
    | nil => rfl
    | cons token ts =>
      cases token with
      | word text =>
        show readDimension none (.word (Text.upper text) :: ts.map Token.upper) = _
        rw [readDimension, readDimension, extraOf_upper, upper_sameLetters]
        cases Kind.extraOf text with
        | some extra => rfl
        | none =>
          dsimp only
          split <;> rfl
      | opening | closing | comma | number | malformed => rfl

/-! ## Geometries -/

theorem ReadsUpper.into (h : ReadsUpper item) (make : α → Geometry) :
    ReadsUpper fun ts => Step.into make (item ts) := h.map make

theorem readsUpper_readKind {member : List Token → Step Geometry} (h : ReadsUpper member)
    (extra : ℕ) (kind : Kind) : ReadsUpper fun ts => readKind member extra ts kind := by
  have hCoord := readsUpper_readCoord extra
  have hPath := readsUpper_readPath extra
  cases kind with
  | point => exact readsUpper_readBody (hCoord.into .point)
  | lineString => exact hPath.into .lineString
  | linearRing => exact hPath.into .lineString
  | polygon => exact (readsUpper_readPolygon extra).into .polygon
  | multiPoint =>
    exact (readsUpper_readBody (readsUpper_readItems (readsUpper_readMember extra))).into
      .multiPoint
  | multiLineString =>
    exact (readsUpper_readBody (readsUpper_readItems hPath)).into .multiLineString
  | multiPolygon =>
    exact (readsUpper_readBody (readsUpper_readItems (readsUpper_readPolygon extra))).into
      .multiPolygon
  | collection => exact (readsUpper_readBody (readsUpper_readItems h)).into .collection

theorem readsUpper_readGeometry (levels : ℕ) : ReadsUpper (readGeometry levels) := by
  induction levels with
  | zero => exact fun _ => rfl
  | succ levels ih =>
    intro ts
    cases ts with
    | nil => rfl
    | cons token ts =>
      cases token with
      | word text =>
        show readGeometry (levels + 1) (.word (Text.upper text) :: ts.map Token.upper) = _
        rw [readGeometry, readGeometry, ofWord_upper]
        cases Kind.ofWord text with
        | none => rfl
        | some named =>
          obtain ⟨kind, glued⟩ := named
          dsimp only
          rw [readsUpper_readDimension glued ts]
          rcases readDimension glued ts with _ | ⟨extra, rest⟩
          · rfl
          · exact readsUpper_readKind ih extra kind rest
      | opening | closing | comma | number | malformed => rfl

/-! ## Whole texts -/

theorem deepest_upper (depth : ℕ) (cs : List Char) :
    deepest depth (cs.map Char.toUpper) = deepest depth cs := by
  induction cs generalizing depth with
  | nil => rfl
  | cons c cs ih =>
    have hOpening := toUpper_eq_iff (m := '(') (by decide) c
    have hClosing := toUpper_eq_iff (m := ')') (by decide) c
    rw [List.map_cons, deepest, deepest]
    simp only [hOpening, hClosing, ih]

end Wkt

theorem Text.trimmed_upper (cs : List Char) :
    Text.trimmed (cs.map Char.toUpper) = (Text.trimmed cs).map Char.toUpper := by
  have hTest : Text.IgnoresCase Text.isBlank := by decide
  rw [Text.trimmed, Text.dropWhile_upper hTest, ← List.map_reverse, Text.dropWhile_upper hTest,
    ← List.map_reverse, Text.trimmed]

/-- Geometry text is read in either case. -/
theorem Geometry.ofWkt_upper (text : String) :
    Geometry.ofWkt (Text.upper text) = Geometry.ofWkt text := by
  rw [ofWkt, Text.toList_upper, Text.trimmed_upper, Wkt.deepest_upper, Wkt.tokens_upper,
    Wkt.readsUpper_readGeometry, ofWkt]
  split
  · rfl
  · rcases Wkt.readGeometry _ (Wkt.tokens (Text.trimmed text.toList)) with _ | ⟨g, rest⟩ <;> rfl

end GeoFilter
