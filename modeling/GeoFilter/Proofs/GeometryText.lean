import GeoFilter.Filter.Accept
import GeoFilter.Proofs.Comparison
import GeoFilter.Proofs.Geometry.LetterCase
import GeoFilter.Proofs.Input.GeometryField
import GeoFilter.Proofs.Lexer.Spelling
import GeoFilter.Proofs.Printer.Filter

set_option autoImplicit false

/-! # Geometry text in its three places

The text of a geometry can stand in a filter as a literal, stand there in quotes, or come with a
record. The lexer cuts the literal out and puts it in upper case, a quoted text is read when the
filter is applied, and the text of a record is read when the record is. Every text that is a
literal means the same geometry in all three places. -/

namespace GeoFilter

/-! ## Reading -/

namespace Text

/-- Blanks at the ends make no difference to what is left of a text. -/
theorem trimmed_append {before after : List Char} (hBefore : ∀ c ∈ before, isBlank c = true)
    (hAfter : ∀ c ∈ after, isBlank c = true) (cs : List Char) :
    trimmed (before ++ (cs ++ after)) = trimmed cs := by
  have hReverse : ∀ c ∈ after.reverse, isBlank c = true := fun c hc =>
    hAfter c (List.mem_reverse.1 hc)
  rw [trimmed, List.dropWhile_append_of_pos hBefore, List.dropWhile_append, trimmed]
  split
  · next hNone =>
    rw [List.dropWhile_eq_nil_iff.2 hAfter, List.isEmpty_iff.1 hNone]
  · rw [List.reverse_append, List.dropWhile_append_of_pos hReverse]

end Text

/-- A literal is read as it is written, too. -/
theorem Cql.SpellsGeometry.ofWkt {w : String} {g : Geometry} (h : SpellsGeometry w g) :
    Geometry.ofWkt w = .ok g := by
  obtain ⟨before, literal, after, hText, hBefore, hAfter, -, hRead⟩ := h.literal
  have hBlank : ∀ c, isSpace c = true → Text.isBlank c = true := by
    intro c hc
    simp only [isSpace, Bool.or_eq_true, beq_iff_eq] at hc
    rcases hc with ((rfl | rfl) | rfl) | rfl <;> rfl
  have hTrimmed : Text.trimmed w.toList = Text.trimmed (String.ofList literal).toList := by
    rw [hText, String.toList_ofList]
    exact Text.trimmed_append (fun c hc => hBlank c (hBefore c hc))
      (fun c hc => hBlank c (hAfter c hc)) literal
  rw [← hRead, Geometry.ofWkt_upper, Geometry.ofWkt, Geometry.ofWkt, hTrimmed]

/-! ## Filters -/

namespace Cql

open Grammar

/-- A spatial predicate on the texts of its two operands. -/
def callText (op : SpatialOp) (left right : String) : String :=
  op.name ++ "(" ++ left ++ ", " ++ right ++ ")"

/-- What the operands spell is what the predicate is called with. -/
theorem parse_callText (op : SpatialOp) {left right : String} {d d' m : ℕ} {l r : Expression}
    (hLeft : Spells left d l) (hRight : Spells right d' r) (hm : max d d' ≤ m) :
    parse (callText op left right) m = .ok (.spatial op l r) := by
  obtain ⟨ks, hCuts, hl⟩ := hLeft.cuts
  obtain ⟨ks', hCuts', hr⟩ := hRight.cuts
  have hArguments : Cuts (left.toList ++ ',' :: ' ' :: (right.toList ++ [')']))
      (ks ++ .comma :: (ks' ++ [.closing])) [] := by
    refine (hCuts.append (closes_cons (.inr rfl) _)).trans ?_
    refine (cuts_comma _).trans (.space rfl ?_)
    exact (hCuts'.append (closes_cons (.inl rfl) _)).trans (cuts_closing [])
  have hOpening : ∀ c ∈ ('(' :: (left.toList ++ ',' :: ' ' :: (right.toList ++ [')']))).head?,
      continuesWord c = false := by
    intro c hc
    obtain rfl := Option.some.inj hc
    decide
  have hName := cuts_plainName (spatialName op).1 hOpening
  have hCall := hName.trans ((cuts_opening _).trans hArguments)
  have hText : (callText op left right).toList
      = op.name.toList ++ '(' :: (left.toList ++ ',' :: ' ' :: (right.toList ++ [')'])) := by
    simp [callText]
  rw [← hText] at hCall
  have hListing : Listing (max d d') (ks ++ .comma :: ks') [l, r] := .more hl (.one hr)
  have hSentence : Sentence .predicate (max d d')
      (.name op.name :: .opening :: (ks ++ .comma :: ks' ++ [.closing])) (.spatial op l r) :=
    .spatial (spatialName op).2 hListing
  rw [List.append_assoc, List.cons_append] at hSentence
  exact parse_of_sentence hCall (Sentence.predicate hSentence).whole hm

end Cql

namespace Filter

variable {record : RecordView} {e : Expression} {w : String} {g h : Geometry}

/-- A spatial predicate looks at the geometry of an operand only. -/
theorem spatial_of_geometry [Relate] (hGeometry : e.evaluateGeometry record = some g)
    (op : SpatialOp) (other : Expression) :
    (spatial op e other).accepts record
        = (spatial op (.literal (.geometry g)) other).accepts record ∧
      (spatial op other e).accepts record
        = (spatial op other (.literal (.geometry g))).accepts record := by
  have hLiteral : (Expression.literal (.geometry g)).evaluateGeometry record = some g := rfl
  simp only [accepts, hGeometry, hLiteral, and_self]

theorem evaluateGeometry_text (hRead : Geometry.ofWkt w = .ok g) :
    (Expression.literal (.text w)).evaluateGeometry record = some g := by
  show (Geometry.ofWkt w).toOption = some g
  rw [hRead]
  rfl

/-- Against a geometry, a text is compared as the geometry that it is read as. -/
theorem holds_text (hRead : Geometry.ofWkt w = .ok g) (op : CompareOp) :
    op.holds (.geometry h) (.text w) = op.holds (.geometry h) (.geometry g) := by
  have hEqual : (Value.geometry h).equal (.text w) = (Value.geometry h).equal (.geometry g) := by
    rw [Value.equal, Value.equal, hRead]
    exact congrArg some (Geometry.same_comm g h)
  cases op with
  | eq | ne => simp only [CompareOp.holds, hEqual]
  | lt | le | gt | ge => rfl

/-- Whatever place the text of a geometry comes from, filters answer in the same way. -/
structure PlacesAgree [Relate] (w : String) (g : Geometry) : Prop where
  /-- As texts of an operand, the literal and the quoted text are what they look like. -/
  calls : ∀ (op : SpatialOp) {other : String} {d m : ℕ} {e : Expression},
    Cql.Spells other d e → d ≤ m →
      Cql.parse (Cql.callText op w other) m = .ok (spatial op (.literal (.geometry g)) e) ∧
      Cql.parse (Cql.callText op (Cql.quotedText w) other) m
        = .ok (spatial op (.literal (.text w)) e) ∧
      Cql.parse (Cql.callText op other w) m = .ok (spatial op e (.literal (.geometry g))) ∧
      Cql.parse (Cql.callText op other (Cql.quotedText w)) m
        = .ok (spatial op e (.literal (.text w)))
  quoted : ∀ (record : RecordView) (op : SpatialOp) (e : Expression),
    (spatial op (.literal (.text w)) e).accepts record
        = (spatial op (.literal (.geometry g)) e).accepts record ∧
      (spatial op e (.literal (.text w))).accepts record
        = (spatial op e (.literal (.geometry g))).accepts record
  /-- A line that holds the text as its geometry is a record, whatever else it holds. -/
  loaded : ∀ (settings : RecordSettings) (line : String),
    Input.HoldsGeometryText settings line w →
      ∃ r, Input.parseRecord settings line = .ok r ∧ ∀ (op : SpatialOp) (e : Expression),
        (spatial op .defaultGeometry e).accepts r.view
            = (spatial op (.literal (.geometry g)) e).accepts r.view ∧
          (spatial op e .defaultGeometry).accepts r.view
            = (spatial op e (.literal (.geometry g))).accepts r.view
  compared : ∀ (record : RecordView) (op : CompareOp) (e : Expression) (h : Geometry),
    e.evaluate record = .geometry h →
      (comparison op e (.literal (.text w))).accepts record
          = (comparison op e (.literal (.geometry g))).accepts record ∧
        (comparison op (.literal (.text w)) e).accepts record
          = (comparison op (.literal (.geometry g)) e).accepts record

/-- Every text that is a geometry literal means the same geometry in quotes and on a line. -/
theorem geometry_places_agree [Relate] (hLiteral : Cql.SpellsGeometry w g) : PlacesAgree w g where
  calls op other d m e hOther hm := by
    have hm : max 0 d ≤ m := by omega
    have hm' : max d 0 ≤ m := by omega
    exact ⟨Cql.parse_callText op hLiteral.spells hOther hm,
      Cql.parse_callText op hLiteral.spells_quoted hOther hm,
      Cql.parse_callText op hOther hLiteral.spells hm',
      Cql.parse_callText op hOther hLiteral.spells_quoted hm'⟩
  quoted record := spatial_of_geometry (evaluateGeometry_text hLiteral.ofWkt)
  loaded settings line hLine := by
    obtain ⟨r, hRecord, hGeometry⟩ := Input.parseRecord_geometry hLine hLiteral.ofWkt
    exact ⟨r, hRecord, spatial_of_geometry hGeometry⟩
  compared record op e h hValue := by
    have hRight := holds_text hLiteral.ofWkt (h := h) op
    have hLeft := holds_text hLiteral.ofWkt (h := h) op.flipped
    rw [CompareOp.holds_flipped, CompareOp.holds_flipped] at hLeft
    simp only [accepts, Expression.evaluate, hValue]
    exact ⟨hRight, hLeft⟩

/-- A literal in mixed case with spaces inside, and a line that holds it. -/
theorem geometry_places_agree_nested :
    let w := "geometryCollection( Point empty )"
    Cql.SpellsGeometry w (.collection [.multiPoint []]) ∧
      Input.HoldsGeometryText ⟨none, some "at"⟩
        "\x7b\"at\": \"geometryCollection( Point empty )\"\x7d" w ∧
      PlacesAgree w (.collection [.multiPoint []]) := by
  have hScan : Cql.scan 'g' "eometryCollection( Point empty )".toList
      = some (.geometry "geometryCollection( Point empty )", 32) := rfl
  have hLiteral : Cql.SpellsGeometry "geometryCollection( Point empty )"
      (.collection [.multiPoint []]) := .of_cuts (.token hScan .done) rfl
  refine ⟨hLiteral, ⟨"at", [("at", .string _)], rfl, rfl, ?_⟩, geometry_places_agree hLiteral⟩
  exact ⟨[], _, [], rfl, rfl, List.forall_mem_nil _⟩

end Filter

end GeoFilter
