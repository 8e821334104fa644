import GeoFilter.Proofs.Composition
import GeoFilter.Proofs.Input.Records
import GeoFilter.Proofs.Program.Workspace
import Mathlib

set_option autoImplicit false

/-! # Filtering is all or nothing

A run that filters writes the lines of all records that the filter accepts, in their order, or it
writes nothing: the filter is parsed before the input is looked at, and all records are loaded
before the first line is written. -/

namespace GeoFilter

namespace Input

variable [Relate]

/-- Whether a filter accepts the record on a line. -/
def accepts (settings : RecordSettings) (f : Filter) (line : String) : Bool :=
  match parseRecord settings line with
  | .ok record => f.accepts record.view
  | .error _ => false

/-- The lines that are not blank and hold records that a filter accepts. -/
def matching (settings : RecordSettings) (f : Filter) (lines : List String) : List String :=
  (contents lines).filter (accepts settings f)

variable {settings : RecordSettings} {lines : List String} {records : List InputRecord}

theorem ReadFrom.accepts {line : String} {r : InputRecord} (h : ReadFrom settings line r)
    (f : Filter) : Input.accepts settings f line = f.accepts r.record.view := by
  rw [Input.accepts, h.2]

/-- The records found are those of the matching lines. -/
theorem matching_of_records (f : Filter)
    (h : List.Forall₂ (ReadFrom settings) (contents lines) records) :
    (f.select records).1.map (·.line) = matching settings f lines := by
  show ((records.filter fun r => f.accepts r.record.view).map (·.line)) = _
  unfold matching
  generalize contents lines = ls at h
  induction h with
  | nil => rfl
  | @cons line r ls records hFirst _ ih =>
    rw [List.filter_cons, List.filter_cons, hFirst.accepts f]
    split
    · rw [List.map_cons, ih, hFirst.1]
    · exact ih

theorem linesOf_records (f : Filter)
    (h : List.Forall₂ (ReadFrom settings) (contents lines) records) :
    InputRecord.linesOf (f.select records).1
      = String.join ((matching settings f lines).map (· ++ "\n")) := by
  rw [← matching_of_records f h, List.map_map]
  rfl

theorem scanned_of_records (f : Filter)
    (h : List.Forall₂ (ReadFrom settings) (contents lines) records) :
    (f.select records).2.scanned = (contents lines).length := by
  show 0 + records.length = _
  rw [Nat.zero_add, h.length_eq]

theorem matched_of_records (f : Filter)
    (h : List.Forall₂ (ReadFrom settings) (contents lines) records) :
    (f.select records).2.matched = (matching settings f lines).length := by
  rw [← matching_of_records f h, List.length_map]
  exact Nat.zero_add _

end Input

namespace Program

open Workspace Input Cql Cql.Grammar

/-! ## The command -/

section

/-- What diagnostics say about a filter that went through records. -/
def filterNotes (f : Filter) (scanned matched : Nat) : List String :=
  [s!"parsed: {f.toCql}", s!"loaded {scanned} record(s)",
    s!"scanned {scanned}, matched {matched}",
    s!"metrics: {showCounters ((Counters.zero.add (.parse true)).add (.cursor scanned matched))}"]

variable [Relate] (w : Workspace) {settings : Settings} (debug : Bool) {source text : String}
  {input : Option String} {f : Filter}

theorem outcome_filter_unparsed {e : Cql.SyntaxError}
    (h : Cql.parse source settings.maxDepth = .error e) :
    outcome (filter (onWorkspace settings debug) source input) w = (.error (.filter source e), w) :=
  outcome_bind_error (outcome_parse_error w settings debug h)

theorem outcome_filter_refused {e : InputError} (h : Cql.parse source settings.maxDepth = .ok f)
    (hText : w.content input = .ok text) (hInput : Input.parse settings.records text = .error e) :
    outcome (filter (onWorkspace settings debug) source input) w
      = (.error (.input e), (w.taken input).reports (noted debug [s!"parsed: {f.toCql}"])) := by
  refine (outcome_bind_ok (outcome_parse_ok w settings debug h)).trans ?_
  have hLoad := outcome_load (w.reports (noted debug [s!"parsed: {f.toCql}"])) settings debug
    ((content_reports w _ input).trans hText)
  rw [hInput, taken_reports] at hLoad
  exact outcome_bind_error hLoad

/-- The parts of a run in which all records are loaded, one after the other. -/
theorem outcome_filter_loaded {records : List InputRecord}
    (h : Cql.parse source settings.maxDepth = .ok f) (hText : w.content input = .ok text)
    (hInput : Input.parse settings.records text = .ok records) :
    outcome (filter (onWorkspace settings debug) source input) w
      = (.ok (), ((w.taken input).prints (InputRecord.linesOf (f.select records).1)).reports
          (noted debug [s!"parsed: {f.toCql}", s!"loaded {records.length} record(s)",
            s!"scanned {(f.select records).2.scanned}, matched {(f.select records).2.matched}",
            s!"metrics: {showCounters ((Counters.zero.add (.parse true)).add
              (.cursor (f.select records).2.scanned (f.select records).2.matched))}"])) := by
  have hLoad := outcome_load (w.reports (noted debug [s!"parsed: {f.toCql}"])) settings debug
    ((content_reports w _ input).trans hText)
  rw [hInput, taken_reports] at hLoad
  refine (outcome_bind_ok (outcome_parse_ok w settings debug h)).trans ?_
  refine (outcome_bind_ok hLoad).trans ?_
  refine (outcome_bind_ok (outcome_note _ settings debug _)).trans ?_
  refine (outcome_bind_ok (outcome_print _ _)).trans ?_
  refine (outcome_bind_ok (outcome_note _ settings debug _)).trans ?_
  refine (outcome_note _ settings debug _).trans ?_
  simp only [reports_reports, prints_reports, noted_append]
  rfl

/-- Where all lines that are not blank hold records, the matching ones are written. -/
theorem outcome_filter_records {lines : List String}
    (h : Cql.parse source settings.maxDepth = .ok f) (hText : w.content input = .ok text)
    (hLines : Text.HasLines text lines)
    (hRecords : ∀ line ∈ contents lines, HoldsRecord settings.records line) :
    outcome (filter (onWorkspace settings debug) source input) w
      = (.ok (), ((w.taken input).prints
          (String.join ((matching settings.records f lines).map (· ++ "\n")))).reports
            (noted debug (filterNotes f (contents lines).length
              (matching settings.records f lines).length))) := by
  obtain ⟨records, hRead⟩ := exists_records hRecords
  have hInput := (parse_eq_ok_iff hLines records).2 hRead
  rw [outcome_filter_loaded w debug h hText hInput, linesOf_records f hRead,
    scanned_of_records f hRead, matched_of_records f hRead, ← hRead.length_eq]
  rfl

/-! ## Whole runs -/

/-- A run that filters, on any workspace and with any settings that it finds. Where the filter is
    not understood, that is reported whatever the input holds. Where a line is neither blank nor
    holds a record, the first such line is reported and nothing is written. Otherwise the lines of
    the records that the filter accepts are written in their order, and the cursor at the end has
    scanned as many records as there are lines that are not blank, and matched as many as are
    written. -/
theorem run_filter {arguments : List String} {options : CommandLine.Options} {source : String}
    {input : Option String} {settings : Settings} (w : Workspace)
    (hCommand : CommandLine.parse arguments = some (.run options (.filter source input)))
    (hSettings : (outcome (Program.settings surroundings options) w).1 = .ok settings) :
    (∀ e, Cql.parse source settings.maxDepth = .error e →
      (run surroundings arguments).run w = (Exit.failure, w.reports
        (noted options.debug [s!"config: {settings.display}"]
          ++ s!"error: {e.render source}\n"))) ∧
    ∀ f text lines, Cql.parse source settings.maxDepth = .ok f → w.content input = .ok text →
      Text.HasLines text lines →
      ((∃ line ∈ contents lines, ¬ HoldsRecord settings.records line) →
        ∃ e, FirstProblem settings.records lines e ∧
          (run surroundings arguments).run w = (Exit.failure, (w.taken input).reports
            (noted options.debug [s!"config: {settings.display}", s!"parsed: {f.toCql}"]
              ++ s!"error: {e.message}\n"))) ∧
      ((∀ line ∈ contents lines, HoldsRecord settings.records line) →
        (run surroundings arguments).run w = (Exit.success, ((w.taken input).prints
          (String.join ((matching settings.records f lines).map (· ++ "\n")))).reports
            (noted options.debug (s!"config: {settings.display}" ::
              filterNotes f (contents lines).length
                (matching settings.records f lines).length))) ∧
          ∃ records, Input.parse settings.records text = .ok records ∧
            (f.select records).2.scanned = (contents lines).length ∧
            (f.select records).2.matched = (matching settings.records f lines).length) := by
  have hRun := (run_command w hCommand).trans (by rw [outcome_execute w hSettings])
  refine ⟨?_, ?_⟩
  · intro e hParse
    rw [hRun, outcome_filter_unparsed _ _ hParse]
    show (Exit.failure, (w.reports _).reports _) = _
    rw [reports_reports]
    rfl
  · intro f text lines hParse hText hLines
    have hContent := (content_reports w
      (noted options.debug [s!"config: {settings.display}"]) input).trans hText
    refine ⟨?_, ?_⟩
    · intro hInvalid
      obtain ⟨e, hProblem⟩ := exists_firstProblem hLines hInvalid
      refine ⟨e, hProblem, ?_⟩
      have hInput := (parse_eq_error_iff hLines e).2 hProblem
      rw [hRun, outcome_filter_refused _ _ hParse hContent hInput]
      show (Exit.failure, (((w.reports _).taken input).reports _).reports _) = _
      rw [taken_reports, reports_reports, reports_reports, ← String.append_assoc, noted_append]
      rfl
    · intro hRecords
      constructor
      · rw [hRun, outcome_filter_records _ _ hParse hContent hLines hRecords]
        show (Exit.success, (((w.reports _).taken input).prints _).reports _) = _
        rw [taken_reports, prints_reports, reports_reports, noted_append]
        rfl
      · obtain ⟨records, hRead⟩ := exists_records hRecords
        exact ⟨records, (parse_eq_ok_iff hLines records).2 hRead, scanned_of_records f hRead,
          matched_of_records f hRead⟩

end

/-- A record that is found after a blank line, a line that holds no record, and a filter that is
    not understood. -/
theorem run_filter_null :
    let good := Workspace.start [] "\x7b\x7d\r\n\n\x7b\"a\":null\x7d"
    let bad := Workspace.start [] "\x7b\x7d\n\nnope\n"
    (run surroundings ["filter", "a IS NULL"]).run good
        = (Exit.success, (good.taken none).prints "\x7b\"a\":null\x7d\n") ∧
      (run surroundings ["filter", "a IS NULL"]).run bad
        = (Exit.failure, (bad.taken none).reports "error: input line 3: json\n") ∧
      ∃ report,
        (run surroundings ["filter", "'"]).run bad = (Exit.failure, bad.reports report) := by
  intro good bad
  have hCommand : CommandLine.parse ["filter", "a IS NULL"]
      = some (.run ⟨none, false, none⟩ (.filter "a IS NULL" none)) := by cbv
  have hParse : Cql.parse "a IS NULL" Settings.default.maxDepth = .ok (.isNull "a" false) := by
    have hCuts : Cuts "a IS NULL".toList [.name "a", .keyword .IS, .keyword .NULL] [] :=
      .token rfl (.space rfl (.token rfl (.space rfl (.token rfl .done))))
    have hName := Arithmetic.term (.factor (.operand (.name "a")))
    exact parse_of_sentence hCuts (Sentence.predicate (.nullTest false hName)).whole
      (Nat.zero_le _)
  refine ⟨?_, ?_, ?_⟩
  · have hLines : Text.HasLines good.input ["\x7b\x7d", "", "\x7b\"a\":null\x7d"] :=
      (Text.hasLines_iff _ _).2 (by decide)
    have hContents : contents ["\x7b\x7d", "", "\x7b\"a\":null\x7d"]
        = ["\x7b\x7d", "\x7b\"a\":null\x7d"] := by decide
    have hRecords : ∀ line ∈ contents ["\x7b\x7d", "", "\x7b\"a\":null\x7d"],
        HoldsRecord Settings.default.records line := by
      rw [hContents, List.forall_mem_cons, List.forall_mem_singleton]
      exact ⟨⟨_, rfl⟩, ⟨_, rfl⟩⟩
    have hMatching : matching Settings.default.records (.isNull "a" false)
        ["\x7b\x7d", "", "\x7b\"a\":null\x7d"] = ["\x7b\"a\":null\x7d"] := by cbv
    have hRun := (((run_filter good hCommand rfl).2 _ _ _ hParse rfl hLines).2 hRecords).1
    rw [hMatching, noted, if_neg Bool.false_ne_true, reports_empty] at hRun
    exact hRun
  · have hLines : Text.HasLines bad.input ["\x7b\x7d", "", "nope"] :=
      (Text.hasLines_iff _ _).2 (by decide)
    have hNope : parseRecord Settings.default.records "nope" = .error .invalidJson := rfl
    have hProblem : FirstProblem Settings.default.records ["\x7b\x7d", "", "nope"]
        ⟨3, .invalidJson⟩ := by
      refine ⟨["\x7b\x7d", ""], "nope", [], rfl, rfl, by decide, hNope, ?_⟩
      have hContents : contents ["\x7b\x7d", ""] = ["\x7b\x7d"] := by decide
      rw [hContents, List.forall_mem_singleton]
      exact ⟨_, rfl⟩
    have hInvalid : ∃ line ∈ contents ["\x7b\x7d", "", "nope"],
        ¬ HoldsRecord Settings.default.records line := by
      refine ⟨"nope", by decide, ?_⟩
      rintro ⟨record, hRecord⟩
      cases hNope.symm.trans hRecord
    obtain ⟨e, hFirst, hRun⟩ :=
      ((run_filter bad hCommand rfl).2 _ _ _ hParse rfl hLines).1 hInvalid
    obtain rfl := hFirst.unique hProblem
    exact hRun
  · have hUnclosed : CommandLine.parse ["filter", "'"]
        = some (.run ⟨none, false, none⟩ (.filter "'" none)) := by cbv
    obtain ⟨e, hError⟩ : ∃ e, Cql.parse "'" Settings.default.maxDepth = .error e :=
      ⟨_, by cbv⟩
    exact ⟨_, (run_filter bad hUnclosed rfl).1 e hError⟩

end Program

end GeoFilter
