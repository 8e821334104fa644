import GeoFilter.Filter.Accept
import GeoFilter.Proofs.Composition
import GeoFilter.Proofs.Input.GeometryField
import GeoFilter.Proofs.Number.Integer

set_option autoImplicit false

/-! # Integers that identify records

An integer in the field for the identifier becomes the text of the nearest double. Up to `2 ^ 53`
that is the integer in plain digits, and the filter for these digits finds the record. Beyond, the
text may be that of another integer, and all integers with the same nearest double are one
identifier. -/

namespace GeoFilter

open Number Cql Cql.Grammar

namespace Input

variable {settings : RecordSettings} {line field : String} {r r' : Record}

/-! ## The identifier of a record -/

/-- A member changes the identifier only if it has the name for it and a text or a number. -/
theorem addMember_id {name : String} {json : Json}
    (h : addMember settings r (name, json) = .ok r') :
    r'.id = if settings.idField = some name then (idText? json).or r.id else r.id := by
  obtain ⟨r₀, -, hId, hAdd⟩ := addMember_eq settings r name json
  rw [h] at hAdd
  rw [← hId]
  revert hAdd
  cases (if settings.geometryField = some name then geometryValue name json else .ok (value json))
  · exact fun hAdd => nomatch hAdd
  · intro hAdd
    rw [Except.ok.inj hAdd]
    rfl

/-- Where all members with the name for the identifier give one, that is the identifier. -/
theorem foldlM_addMember_id (hField : settings.idField = some field) {id : String}
    {members : List (String × Json)}
    (hId : ∀ member ∈ members, member.1 = field → idText? member.2 = some id)
    (h : members.foldlM (addMember settings) r = .ok r')
    (hThere : (∃ member ∈ members, member.1 = field) ∨ r.id = some id) : r'.id = some id := by
  induction members generalizing r with
  | nil =>
    obtain rfl := Except.ok.inj h
    simpa using hThere
  | cons member members ih =>
    obtain ⟨hFirst, hOthers⟩ := List.forall_mem_cons.1 hId
    obtain ⟨name, json⟩ := member
    rw [List.foldlM_cons] at h
    cases hAdd : addMember settings r (name, json) with
    | error e =>
      rw [hAdd] at h
      exact nomatch h
    | ok r₀ =>
      rw [hAdd] at h
      refine ih hOthers h ?_
      have hStep := addMember_id hAdd
      by_cases hName : name = field
      · rw [if_pos (hField.trans (congrArg some hName.symm)), hFirst hName] at hStep
        exact .inr hStep
      · rw [if_neg fun hEq => hName (Option.some.inj (hField.symm.trans hEq)).symm] at hStep
        rw [hStep]
        refine hThere.imp_left ?_
        rintro ⟨member, hMem, rfl⟩
        exact ⟨member, (List.mem_cons.1 hMem).resolve_left fun hEq => hName (hEq ▸ rfl), rfl⟩

/-- The line holds an integer in the field that the settings name for the identifier. -/
def HoldsIntegerId (settings : RecordSettings) (line : String) (i : ℤ) : Prop :=
  ∃ field members, settings.idField = some field ∧
    Json.parse line = some (.object members) ∧ LastUnder field (.integer i) members

theorem parseRecord_id {i : ℤ} (hLine : HoldsIntegerId settings line i)
    (h : parseRecord settings line = .ok r) : r.id = some (canonical (ofInt i)) := by
  obtain ⟨field, members, hField, hParse, hLast⟩ := hLine
  have hMembers : ∀ member ∈ Json.orderedMembers members [], member.1 = field →
      idText? member.2 = some (canonical (ofInt i)) := by
    rintro ⟨_, json⟩ hMem rfl
    rw [(Json.mem_orderedMembers hLast).1 hMem, Json.ordered_integer]
    rfl
  have hThere : ∃ member ∈ Json.orderedMembers members [], member.1 = field :=
    ⟨_, (Json.mem_orderedMembers hLast).2 rfl, rfl⟩
  rw [parseRecord, hParse] at h
  dsimp only [Option.map_some, Json.ordered] at h
  cases hFold : (Json.orderedMembers members []).foldlM (addMember settings) Record.empty with
  | error e =>
    rw [hFold] at h
    exact absurd h (by simp [Except.map])
  | ok r₀ =>
    rw [hFold] at h
    rw [← foldlM_addMember_id hField hMembers hFold (.inl hThere), ← Except.ok.inj h]
    -- The name of the geometry is noted at the end, beside the identifier.
    split <;> rfl

end Input

/-! ## The filter for an identifier -/

namespace Cql

/-- Text without a quote stands in quotes as it is. -/
theorem textChars_plain {s : String} (h : ∀ c ∈ s.toList, c ≠ '\'') :
    textChars s = '\'' :: (s.toList ++ ['\'']) := by
  have hSame : s.toList.flatMap (fun c => if c = '\'' then [c, c] else [c]) = s.toList := by
    rw [List.flatMap_congr (g := fun c => [c]) fun c hc => if_neg (h c hc)]
    exact List.flatMap_singleton' _
  rw [textChars, quoteWith, hSame]

theorem parse_id {id : String} (h : ∀ c ∈ id.toList, c ≠ '\'') (m : ℕ) :
    parse s!"IN ('{id}')" m = .ok (.ids [.text id]) := by
  have hText : s!"IN ('{id}')".toList
      = Keyword.IN.word.toList ++ ' ' :: ('(' :: (textChars id ++ [')'])) := by
    rw [textChars_plain h, String.toList_append, String.toList_append]
    simp only [List.cons_append, List.append_assoc]
    rfl
  have hCuts := ((yields_keyword .IN).space (yields_text id).enclosed).cuts
  rw [← hText] at hCuts
  have hListing : Listing 0 [.text id] ([Value.text id].map Expression.literal) :=
    .one (.term (.factor (.operand (.text id))))
  exact parse_of_sentence hCuts (Sentence.predicate (.ids hListing)).whole (Nat.zero_le m)

end Cql

theorem Filter.accepts_id_iff [Relate] (r : Record) (id : String) :
    (Filter.ids [.text id]).accepts r.view = true ↔ r.id = some id := by
  have hView : r.view.id = r.id := rfl
  rw [Filter.accepts, hView]
  cases r.id with
  | none => simp
  | some found =>
    simp only [List.any_cons, List.any_nil, Bool.or_false, Value.asText, beq_iff_eq,
      Option.some.injEq]
    exact eq_comm

/-! ## Integers -/

/-- The integer fits into 64 bits, with or without a sign. -/
def FitsIn64 (i : ℤ) : Prop := -2 ^ 63 ≤ i ∧ i < 2 ^ 64

theorem FitsIn64.finite {i : ℤ} (h : FitsIn64 i) :
    natCode i.natAbs < binary64.infinityCode := by
  obtain ⟨hLow, hHigh⟩ := h
  exact natCode_finite (by omega)

theorem not_quote_of_mem_toString {j : ℤ} : ∀ c ∈ (toString j).toList, c ≠ '\'' := by
  have hDigits : ∀ n : ℕ, ∀ c ∈ n.repr.toList, c ≠ '\'' := by
    rintro n _ hc rfl
    rw [Nat.repr_eq_ofList_toDigits, String.toList_ofList] at hc
    exact absurd (allDigits_toDigits n _ hc) (by decide)
  rw [Int.toString_eq_repr, Int.repr_eq_if]
  split
  · exact hDigits _
  · rw [String.toList_append]
    exact List.forall_mem_append.2 ⟨by simp, hDigits _⟩

namespace Input

variable {settings : RecordSettings} {line : String} {r : Record}

theorem parseRecord_integer_id {i : ℤ} (hLine : HoldsIntegerId settings line i)
    (hFits : FitsIn64 i) (h : parseRecord settings line = .ok r) :
    r.id = some (toString (spelled i)) := by
  rw [parseRecord_id hLine h, canonical_ofInt hFits.finite]

/-- The filter for the digits of an integer finds the record with the integer `i` as its identifier
    exactly if these are the digits of the double nearest to `i`. Another integer gives the same
    identifier exactly if it has the same nearest double. So up to `2 ^ 53` the record is found by
    `i` alone, and no other integer up to there gives its identifier. -/
theorem integer_id_accepted_iff [Relate] {i : ℤ} (hLine : HoldsIntegerId settings line i)
    (hFits : FitsIn64 i) (hRecord : parseRecord settings line = .ok r) (m : ℕ) :
    (∀ j : ℤ, ∃ f, Cql.parse s!"IN ('{j}')" m = .ok f ∧
      (f.accepts r.view = true ↔ j = spelled i) ∧
      (i.natAbs ≤ 2 ^ 53 → (f.accepts r.view = true ↔ i = j))) ∧
    ofInt (spelled i) = ofInt i ∧
    ∀ {line' : String} {i' : ℤ} {r' : Record}, HoldsIntegerId settings line' i' → FitsIn64 i' →
      parseRecord settings line' = .ok r' →
      (r.id = r'.id ↔ ofInt i = ofInt i') ∧
      (i.natAbs ≤ 2 ^ 53 → i'.natAbs ≤ 2 ^ 53 → (r.id = r'.id ↔ i = i')) := by
  have hId := parseRecord_integer_id hLine hFits hRecord
  refine ⟨fun j => ?_, ofInt_spelled hFits.finite, fun hLine' hFits' hRecord' => ?_⟩
  · have hAccepts : (Filter.ids [.text (toString j)]).accepts r.view = true ↔ j = spelled i := by
      rw [Filter.accepts_id_iff, hId, Option.some.injEq, toString_inj, eq_comm]
    refine ⟨_, parse_id not_quote_of_mem_toString m, hAccepts, fun hSmall => ?_⟩
    rw [hAccepts, spelled_small hSmall, eq_comm]
  · have hSame := spelled_eq_iff hFits.finite hFits'.finite
    rw [hId, parseRecord_integer_id hLine' hFits' hRecord', Option.some.injEq, toString_inj]
    refine ⟨hSame, fun hSmall hSmall' => ?_⟩
    rw [spelled_small hSmall, spelled_small hSmall']

theorem exists_record (h : (parseRecord settings line).isOk = true) :
    ∃ r, parseRecord settings line = .ok r := by
  cases hRecord : parseRecord settings line with
  | error e =>
    rw [hRecord] at h
    exact nomatch h
  | ok r => exact ⟨r, rfl⟩

/-- A small negative integer is found by its digits, and not by those of its magnitude. -/
theorem integer_id_accepted_iff_minus :
    ∃ r f f', parseRecord ⟨some "fid", none⟩ "\x7b\"fid\": -7\x7d" = .ok r ∧
      Cql.parse "IN ('-7')" 64 = .ok f ∧ f.accepts r.view = true ∧
      Cql.parse "IN ('7')" 64 = .ok f' ∧ f'.accepts r.view = false := by
  have hLine : HoldsIntegerId ⟨some "fid", none⟩ "\x7b\"fid\": -7\x7d" (-7) :=
    ⟨"fid", [("fid", .integer (-7))], rfl, rfl, [], _, [], rfl, rfl, by simp⟩
  have hOk : (parseRecord ⟨some "fid", none⟩ "\x7b\"fid\": -7\x7d").isOk = true := by
    decide +kernel
  obtain ⟨r, hRecord⟩ := exists_record hOk
  have hIds := (integer_id_accepted_iff hLine ⟨by decide, by decide⟩ hRecord 64).1
  obtain ⟨f, hParse, -, hAccepts⟩ := hIds (-7)
  obtain ⟨f', hParse', -, hAccepts'⟩ := hIds 7
  refine ⟨r, f, f', hRecord, hParse, (hAccepts (by decide)).2 rfl, hParse', ?_⟩
  rw [← Bool.not_eq_true, hAccepts' (by decide)]
  decide

/-- The first integer that is no double: the record is not found by its digits, and it has the same
    identifier as the one with the integer before. So integers do not keep their identity. -/
theorem integer_id_lost :
    (∃ r r' f, parseRecord ⟨some "fid", none⟩ "\x7b\"fid\": 9007199254740993\x7d" = .ok r ∧
      parseRecord ⟨some "fid", none⟩ "\x7b\"fid\": 9007199254740992\x7d" = .ok r' ∧
      r.id = some "9007199254740992" ∧ r'.id = r.id ∧
      Cql.parse "IN ('9007199254740993')" 64 = .ok f ∧ f.accepts r.view = false) ∧
    ¬ ∀ (settings : RecordSettings) (line : String) (i j : ℤ) (r : Record) (f : Filter) (m : ℕ),
      HoldsIntegerId settings line i → FitsIn64 i → FitsIn64 j →
      parseRecord settings line = .ok r → Cql.parse s!"IN ('{j}')" m = .ok f →
      (f.accepts r.view = true ↔ i = j) := by
  have hLine : HoldsIntegerId ⟨some "fid", none⟩ "\x7b\"fid\": 9007199254740993\x7d"
      9007199254740993 :=
    ⟨"fid", [("fid", .integer 9007199254740993)], rfl, rfl, [], _, [], rfl, rfl, by simp⟩
  have hLine' : HoldsIntegerId ⟨some "fid", none⟩ "\x7b\"fid\": 9007199254740992\x7d"
      9007199254740992 :=
    ⟨"fid", [("fid", .integer 9007199254740992)], rfl, rfl, [], _, [], rfl, rfl, by simp⟩
  have hFits : FitsIn64 9007199254740993 := ⟨by decide, by decide⟩
  have hOk : (parseRecord ⟨some "fid", none⟩ "\x7b\"fid\": 9007199254740993\x7d").isOk = true :=
    by decide +kernel
  have hOk' : (parseRecord ⟨some "fid", none⟩ "\x7b\"fid\": 9007199254740992\x7d").isOk = true :=
    by decide +kernel
  obtain ⟨r, hRecord⟩ := exists_record hOk
  obtain ⟨r', hRecord'⟩ := exists_record hOk'
  have hSpelled : spelled 9007199254740993 = 9007199254740992 := by decide +kernel
  have hId : r.id = some "9007199254740992" := by
    rw [parseRecord_integer_id hLine hFits hRecord, hSpelled]
    rfl
  have hId' : r'.id = some "9007199254740992" := by
    rw [parseRecord_integer_id hLine' ⟨by decide, by decide⟩ hRecord', spelled_small (by decide)]
    rfl
  have hParse : Cql.parse "IN ('9007199254740993')" 64
      = .ok (.ids [.text (toString (9007199254740993 : ℤ))]) :=
    parse_id (not_quote_of_mem_toString (j := 9007199254740993)) 64
  have hRefused :
      (Filter.ids [.text (toString (9007199254740993 : ℤ))]).accepts r.view = false := by
    rw [← Bool.not_eq_true, Filter.accepts_id_iff, hId]
    decide
  refine ⟨⟨r, r', _, hRecord, hRecord', hId, hId'.trans hId.symm, hParse, hRefused⟩, fun hAll => ?_⟩
  have hAccepts := (hAll _ _ _ _ r _ 64 hLine hFits hFits hRecord hParse).2 rfl
  exact absurd (hRefused.symm.trans hAccepts) Bool.false_ne_true

end Input

end GeoFilter
