import GeoFilter.Input
import GeoFilter.Proofs.Input.Lines
import Mathlib.Data.List.Forall2

set_option autoImplicit false

/-! # Which records an input holds

Reading an input either finds the record of every line that is not blank, in the order of the
lines, or names the first line that is neither blank nor holds a record. Blank lines count when
lines are numbered. -/

namespace GeoFilter.Input

/-- The lines that are not blank. -/
def contents (lines : List String) : List String := lines.filter fun line => !Text.isAllBlank line

variable {settings : RecordSettings}

/-- The line holds a record. -/
def HoldsRecord (settings : RecordSettings) (line : String) : Prop :=
  ∃ record, parseRecord settings line = .ok record

/-- The record comes from the line. -/
def ReadFrom (settings : RecordSettings) (line : String) (r : InputRecord) : Prop :=
  r.line = line ∧ parseRecord settings line = .ok r.record

/-- The first line that is neither blank nor holds a record has this number and this problem. The
    first line of all has number one. -/
def FirstProblem (settings : RecordSettings) (lines : List String) (e : InputError) : Prop :=
  ∃ before line after, lines = before ++ line :: after ∧ e.line = before.length + 1 ∧
    Text.isAllBlank line = false ∧ parseRecord settings line = .error e.problem ∧
    ∀ l ∈ contents before, HoldsRecord settings l

/-! ## One line -/

theorem contents_blank {line : String} (h : Text.isAllBlank line = true) (lines : List String) :
    contents (line :: lines) = contents lines := by simp [contents, h]

theorem contents_cons {line : String} (h : Text.isAllBlank line = false) (lines : List String) :
    contents (line :: lines) = line :: contents lines := by simp [contents, h]

theorem parseNumbered_blank {line : String} (h : Text.isAllBlank line = true) (n : Nat)
    (lines : List String) :
    parseNumbered settings n (line :: lines) = parseNumbered settings (n + 1) lines := by
  rw [parseNumbered, if_pos h]

theorem parseNumbered_record {line : String} {record : Record}
    (h : Text.isAllBlank line = false) (hRecord : parseRecord settings line = .ok record) (n : Nat)
    (lines : List String) :
    parseNumbered settings n (line :: lines)
      = (parseNumbered settings (n + 1) lines).map fun others => ⟨line, record⟩ :: others := by
  rw [parseNumbered, if_neg (by simp [h]), hRecord]

theorem parseNumbered_problem {line : String} {problem : LineProblem}
    (h : Text.isAllBlank line = false) (hProblem : parseRecord settings line = .error problem)
    (n : Nat) (lines : List String) :
    parseNumbered settings n (line :: lines) = .error ⟨n, problem⟩ := by
  rw [parseNumbered, if_neg (by simp [h]), hProblem]

/-! ## All lines -/

/-- All lines that are not blank hold records, and these are the records that are found. -/
theorem parseNumbered_eq_ok_iff (n : Nat) (lines : List String) (records : List InputRecord) :
    parseNumbered settings n lines = .ok records ↔
      List.Forall₂ (ReadFrom settings) (contents lines) records := by
  induction lines generalizing n records with
  | nil => cases records <;> simp [parseNumbered, contents]
  | cons line lines ih =>
    cases hBlank : Text.isAllBlank line with
    | true => rw [parseNumbered_blank hBlank, contents_blank hBlank, ih]
    | false =>
      rw [contents_cons hBlank]
      cases hLine : parseRecord settings line with
      | error problem =>
        rw [parseNumbered_problem hBlank hLine]
        constructor
        · exact fun h => nomatch h
        · intro h
          cases h with
          | cons hFirst _ => exact nomatch hLine.symm.trans hFirst.2
      | ok record =>
        rw [parseNumbered_record hBlank hLine]
        constructor
        · intro h
          cases hRest : parseNumbered settings (n + 1) lines with
          | error e =>
            rw [hRest] at h
            exact nomatch h
          | ok others =>
            rw [hRest] at h
            obtain rfl := Except.ok.inj h
            exact .cons ⟨rfl, hLine⟩ ((ih _ _).1 hRest)
        · intro h
          cases h with
          | @cons _ r _ others hFirst hOthers =>
            obtain ⟨rfl, hRecord⟩ := hFirst
            obtain rfl := Except.ok.inj (hLine.symm.trans hRecord)
            rw [(ih _ _).2 hOthers]
            rfl

theorem parseNumbered_after (n : Nat) {before : List String}
    (h : ∀ l ∈ contents before, HoldsRecord settings l) {lines : List String} {e : InputError}
    (hRest : parseNumbered settings (n + before.length) lines = .error e) :
    parseNumbered settings n (before ++ lines) = .error e := by
  induction before generalizing n with
  | nil => exact hRest
  | cons l before ih =>
    rw [List.length_cons, ← Nat.add_assoc, Nat.add_right_comm] at hRest
    rw [List.cons_append]
    cases hBlank : Text.isAllBlank l with
    | true =>
      rw [contents_blank hBlank] at h
      rw [parseNumbered_blank hBlank, ih (n + 1) h hRest]
    | false =>
      rw [contents_cons hBlank, List.forall_mem_cons] at h
      obtain ⟨record, hRecord⟩ := h.1
      rw [parseNumbered_record hBlank hRecord, ih (n + 1) h.2 hRest]
      rfl

theorem firstProblem_of_parseNumbered {n : Nat} {lines : List String} {e : InputError}
    (h : parseNumbered settings n lines = .error e) :
    ∃ before line after, lines = before ++ line :: after ∧ e.line = n + before.length ∧
      Text.isAllBlank line = false ∧ parseRecord settings line = .error e.problem ∧
      ∀ l ∈ contents before, HoldsRecord settings l := by
  induction lines generalizing n with
  | nil => exact nomatch h
  | cons l lines ih =>
    cases hBlank : Text.isAllBlank l with
    | true =>
      rw [parseNumbered_blank hBlank] at h
      obtain ⟨before, line, after, rfl, hNumber, hLine, hProblem, hBefore⟩ := ih h
      refine ⟨l :: before, line, after, rfl, ?_, hLine, hProblem, ?_⟩
      · rw [hNumber, List.length_cons]; omega
      · rwa [contents_blank hBlank]
    | false =>
      cases hLine : parseRecord settings l with
      | error problem =>
        rw [parseNumbered_problem hBlank hLine] at h
        obtain rfl := Except.error.inj h
        exact ⟨[], l, lines, rfl, rfl, hBlank, hLine, fun _ hMem => nomatch hMem⟩
      | ok record =>
        rw [parseNumbered_record hBlank hLine] at h
        cases hRest : parseNumbered settings (n + 1) lines with
        | ok others =>
          rw [hRest] at h
          exact nomatch h
        | error e' =>
          rw [hRest] at h
          obtain rfl := Except.error.inj h
          obtain ⟨before, line, after, rfl, hNumber, hNot, hProblem, hBefore⟩ := ih hRest
          refine ⟨l :: before, line, after, rfl, ?_, hNot, hProblem, ?_⟩
          · rw [hNumber, List.length_cons]; omega
          · rw [contents_cons hBlank, List.forall_mem_cons]
            exact ⟨⟨record, hLine⟩, hBefore⟩

/-- The first line that is neither blank nor holds a record is the one that is refused. -/
theorem parseNumbered_eq_error_iff (lines : List String) (e : InputError) :
    parseNumbered settings 1 lines = .error e ↔ FirstProblem settings lines e := by
  constructor
  · intro h
    obtain ⟨before, line, after, hEq, hNumber, hRest⟩ := firstProblem_of_parseNumbered h
    exact ⟨before, line, after, hEq, hNumber.trans (Nat.add_comm _ _), hRest⟩
  · rintro ⟨before, line, after, rfl, hNumber, hBlank, hProblem, hBefore⟩
    refine parseNumbered_after 1 hBefore ?_
    rw [parseNumbered_problem hBlank hProblem, Nat.add_comm, ← hNumber]

theorem FirstProblem.unique {lines : List String} {e e' : InputError}
    (h : FirstProblem settings lines e) (h' : FirstProblem settings lines e') : e = e' := by
  rw [← parseNumbered_eq_error_iff] at h h'
  exact Except.error.inj (h.symm.trans h')

/-! ## Whole inputs -/

variable {text : String} {lines : List String}

/-- An input is read exactly if each of its lines is blank or holds a record, and what is read are
    the records of its lines in their order. -/
theorem parse_eq_ok_iff (hLines : Text.HasLines text lines) (records : List InputRecord) :
    parse settings text = .ok records ↔
      List.Forall₂ (ReadFrom settings) (contents lines) records := by
  rw [parse, (Text.hasLines_iff _ _).1 hLines, parseNumbered_eq_ok_iff]

/-- An input is refused exactly for its first line that is neither blank nor holds a record. -/
theorem parse_eq_error_iff (hLines : Text.HasLines text lines) (e : InputError) :
    parse settings text = .error e ↔ FirstProblem settings lines e := by
  rw [parse, (Text.hasLines_iff _ _).1 hLines, parseNumbered_eq_error_iff]

/-- Where every line is blank or holds a record, there is a record for each that is not blank. -/
theorem exists_records (h : ∀ line ∈ contents lines, HoldsRecord settings line) :
    ∃ records, List.Forall₂ (ReadFrom settings) (contents lines) records := by
  generalize contents lines = ls at h
  induction ls with
  | nil => exact ⟨[], .nil⟩
  | cons line ls ih =>
    rw [List.forall_mem_cons] at h
    obtain ⟨record, hRecord⟩ := h.1
    obtain ⟨records, hOthers⟩ := ih h.2
    exact ⟨⟨line, record⟩ :: records, .cons ⟨rfl, hRecord⟩ hOthers⟩

/-- Where some line is neither blank nor holds a record, there is a first one. -/
theorem exists_firstProblem (hLines : Text.HasLines text lines)
    (h : ∃ line ∈ contents lines, ¬ HoldsRecord settings line) :
    ∃ e, FirstProblem settings lines e := by
  obtain ⟨line, hMem, hNot⟩ := h
  cases hParse : parse settings text with
  | error e => exact ⟨e, (parse_eq_error_iff hLines e).1 hParse⟩
  | ok records =>
    have hRead := (parse_eq_ok_iff hLines records).1 hParse
    have hHold : List.Forall₂ (fun line r => HoldsRecord settings line ∧
        ReadFrom settings line r) (contents lines) records :=
      hRead.imp fun line r h => ⟨⟨r.record, h.2⟩, h⟩
    exact absurd (((List.forall₂_and_left _ _).1 hHold).1 line hMem) hNot

end GeoFilter.Input
