import GeoFilter.Proofs.Lexer.Failure
import GeoFilter.Proofs.Program.Filter
import GeoFilter.Shell

set_option autoImplicit false

/-! # The shell and the filter command

A line of the shell that is a filter is answered with what the filter command writes for the same
records, and a summary. But the shell takes every line that starts with a point for a command, and
so may a filter start, with a number that is written without a digit before the point. -/

namespace GeoFilter

namespace Filter

variable [Relate]

/-! ## What the filter command writes -/

/-- The records that a filter accepts, in their order. -/
def accepted (f : Filter) (records : List InputRecord) : List InputRecord :=
  records.filter fun r => f.accepts r.record.view

/-- The lines of the records that a filter accepts. -/
def written (f : Filter) (records : List InputRecord) : String :=
  String.join ((f.accepted records).map fun r => r.line ++ "\n")

variable (f : Filter) (records : List InputRecord)

theorem linesOf_select : InputRecord.linesOf (f.select records).1 = f.written records := rfl

theorem scanned_select : (f.select records).2.scanned = records.length := Nat.zero_add _

theorem matched_select : (f.select records).2.matched = (f.accepted records).length :=
  Nat.zero_add _

end Filter

namespace Program

open Workspace

/-- On loaded records the filter command writes the lines of those that the filter accepts, and
    reports how many it scanned and matched. -/
theorem outcome_filter_written [Relate] {settings : Settings} {source text : String} {f : Filter}
    {records : List InputRecord} {input : Option String} (w : Workspace) (debug : Bool)
    (h : Cql.parse source settings.maxDepth = .ok f) (hText : w.content input = .ok text)
    (hInput : Input.parse settings.records text = .ok records) :
    outcome (filter (onWorkspace settings debug) source input) w
      = (.ok (), ((w.taken input).prints (f.written records)).reports
          (noted debug (filterNotes f records.length (f.accepted records).length))) := by
  rw [outcome_filter_loaded w debug h hText hInput, f.linesOf_select, f.scanned_select,
    f.matched_select]
  rfl

end Program

namespace Shell

open Cql Cql.Grammar Input Program Workspace

/-! ## Lines that start with a point -/

/-- A filter that starts with a point starts with a number. -/
theorem digit_of_parse {line : String} {m : ℕ} {f : Filter} (h : Cql.parse line m = .ok f)
    (hPoint : line.toList.head? = some '.') :
    ∃ d rest, line.toList = '.' :: d :: rest ∧ d.isDigit = true := by
  obtain ⟨_, _, -, hCuts, -⟩ := cuts_of_parse h
  obtain ⟨rest, hLine⟩ := List.head?_eq_some_iff.1 hPoint
  rw [hLine] at hCuts ⊢
  cases hCuts with
  | space hSpace => exact absurd hSpace (by decide)
  | token hScan =>
    -- A point is no quote, no letter and no mark, so it is read if a number starts with it.
    have hNumber : startsNumber '.' rest = true := by
      rw [← Bool.not_eq_false]
      intro hNot
      rw [scan_of_stray ⟨rfl, hNot, by decide⟩, scanMark_none (by decide)] at hScan
      exact nomatch hScan
    cases rest with
    | nil => exact absurd hNumber (by decide)
    | cons d rest => exact ⟨d, rest, rfl, hNumber⟩

/-- No command is a point and a digit. -/
theorem ofCommand_of_digit {command : String} {d : Char} {cs : List Char}
    (h : command.toList = '.' :: d :: cs) (hDigit : d.isDigit = true) (rest : String) :
    Entry.ofCommand command rest = .unknown := by
  unfold Entry.ofCommand
  split
  case h_6 => rfl
  all_goals
    obtain ⟨rfl, -⟩ := List.cons.inj (List.cons.inj h).2
    exact absurd hDigit (by decide)

/-- A filter is taken for a command, and not for one that there is, if it starts with a point. -/
theorem ofLine_of_parse {line : String} {m : ℕ} {f : Filter} (h : Cql.parse line m = .ok f) :
    Entry.ofLine line = if line.toList.head? = some '.' then .unknown else .find line := by
  unfold Entry.ofLine
  split
  · next hPoint =>
    obtain ⟨d, rest, hLine, hDigit⟩ := digit_of_parse h hPoint
    have hCommand : (splitCommand line).1.toList
        = '.' :: d :: rest.takeWhile fun c => !Text.isBlank c := by
      have hMark : Number.isNumberMark d = true := by
        simp [Number.isNumberMark, Char.isAlphanum, hDigit]
      have hPoint : Text.isBlank '.' = false := by decide
      simp [splitCommand, hLine, hPoint, not_isBlank_of_isNumberMark hMark]
    exact ofCommand_of_digit hCommand hDigit _
  · rfl

/-! ## Answers -/

/-- The summary of records that were gone through. -/
def summary (matched scanned : ℕ) : String := s!"({matched} of {scanned} records)"

/-- The answer to a line that starts like a command. -/
def notACommand (line : String) : Reply := .print s!"unknown command '{line}', try .help"

theorem respond_of_parse [Relate] {line : String} {m : ℕ} {f : Filter}
    (h : Cql.parse line m = .ok f) (records : List InputRecord) :
    respond m records line =
      if line.toList.head? = some '.' then notACommand line
      else .print (f.written records ++ summary (f.accepted records).length records.length) := by
  rw [respond, ofLine_of_parse h]
  by_cases hPoint : line.toList.head? = some '.'
  · rw [if_pos hPoint, if_pos hPoint]
    rfl
  · rw [if_neg hPoint, if_neg hPoint]
    show Reply.print (find m line records) = _
    rw [find, h]
    show Reply.print (InputRecord.linesOf (f.select records).1
      ++ summary (f.select records).2.matched (f.select records).2.scanned) = _
    rw [f.linesOf_select, f.matched_select, f.scanned_select]

/-- The last character of a text that ends in another text. -/
theorem getLast?_append_text {before after : String} {c : Char}
    (h : after.toList.getLast? = some c) : (before ++ after).toList.getLast? = some c := by
  rw [String.toList_append, List.getLast?_append, h, Option.some_or]

/-- No summary ends like the answer to an unknown command. -/
theorem notACommand_ne (line text : String) (matched scanned : ℕ) :
    notACommand line ≠ .print (text ++ summary matched scanned) := by
  intro hEq
  have hHelp : s!"unknown command '{line}', try .help".toList.getLast? = some 'p' :=
    getLast?_append_text (show "', try .help".toList.getLast? = some 'p' by decide)
  have hRecords : (text ++ summary matched scanned).toList.getLast? = some ')' :=
    getLast?_append_text (getLast?_append_text
      (show " records)".toList.getLast? = some ')' by decide))
  rw [← Reply.print.inj hEq, hHelp] at hRecords
  exact absurd hRecords (by decide)

/-- A line of the shell that is a filter is answered with what the filter command writes for the
    loaded records, and the number of records that it matched and scanned, exactly if the line does
    not start with a point. Otherwise the answer is that there is no such command, whatever the
    filter and the records. The shell is not left in either case. -/
theorem respond_like_filter_iff [Relate] {settings : Settings} {line : String} {f : Filter}
    (h : Cql.parse line settings.maxDepth = .ok f) (records : List InputRecord) :
    (∀ (w : Workspace) (debug : Bool) (input : Option String) (text : String),
      w.content input = .ok text → Input.parse settings.records text = .ok records →
      outcome (filter (onWorkspace settings debug) line input) w
        = (.ok (), ((w.taken input).prints (f.written records)).reports
            (noted debug (filterNotes f records.length (f.accepted records).length)))) ∧
    (respond settings.maxDepth records line
        = .print (f.written records ++ summary (f.accepted records).length records.length) ↔
      line.toList.head? ≠ some '.') ∧
    (line.toList.head? = some '.' →
      respond settings.maxDepth records line = notACommand line) ∧
    respond settings.maxDepth records line ≠ .quit := by
  refine ⟨fun w debug _ _ hText hInput => outcome_filter_written w debug h hText hInput, ?_⟩
  rw [respond_of_parse h records]
  split
  · next hPoint =>
    refine ⟨iff_of_false (notACommand_ne _ _ _ _) (not_not_intro hPoint), fun _ => rfl, ?_⟩
    exact fun hQuit => nomatch hQuit
  · next hOther =>
    refine ⟨iff_of_true rfl hOther, fun hPoint => absurd hPoint hOther, ?_⟩
    exact fun hQuit => nomatch hQuit

/-- A filter that starts with a letter, and two records of which it accepts one. -/
theorem respond_like_filter_iff_null :
    let loaded := Workspace.start [] "\x7b\"a\":null\x7d\n\x7b\x7d\n"
    let records : List InputRecord :=
      [⟨"\x7b\"a\":null\x7d", Record.empty.insert "a" .null⟩, ⟨"\x7b\x7d", Record.empty⟩]
    outcome (filter (onWorkspace Settings.default false) "a IS NULL" none) loaded
        = (.ok (), (loaded.taken none).prints "\x7b\"a\":null\x7d\n") ∧
      respond Settings.default.maxDepth records "a IS NULL"
        = .print "\x7b\"a\":null\x7d\n(1 of 2 records)" := by
  intro loaded records
  have hCuts : Cuts "a IS NULL".toList [.name "a", .keyword .IS, .keyword .NULL] [] :=
    .token rfl (.space rfl (.token rfl (.space rfl (.token rfl .done))))
  have hName := Arithmetic.term (.factor (.operand (.name "a")))
  have hParse : Cql.parse "a IS NULL" Settings.default.maxDepth = .ok (.isNull "a" false) :=
    parse_of_sentence hCuts (Sentence.predicate (.nullTest false hName)).whole (Nat.zero_le _)
  have hInput : Input.parse Settings.default.records loaded.input = .ok records := by
    have hLines : Text.HasLines loaded.input ["\x7b\"a\":null\x7d", "\x7b\x7d"] :=
      (Text.hasLines_iff _ _).2 (by decide)
    have hContents : contents ["\x7b\"a\":null\x7d", "\x7b\x7d"]
        = ["\x7b\"a\":null\x7d", "\x7b\x7d"] := by decide
    rw [parse_eq_ok_iff hLines, hContents]
    exact .cons ⟨rfl, rfl⟩ (.cons ⟨rfl, rfl⟩ .nil)
  obtain ⟨hFilter, hShell, -, -⟩ := respond_like_filter_iff hParse records
  have hWritten : Filter.written (.isNull "a" false) records = "\x7b\"a\":null\x7d\n" := by
    decide +kernel
  constructor
  · have hOutcome := hFilter loaded false none loaded.input rfl hInput
    rw [hWritten, noted, if_neg Bool.false_ne_true, reports_empty] at hOutcome
    exact hOutcome
  · rw [hShell.2 (by decide), hWritten]
    decide +kernel

theorem eq_ok_of_toOption {ε α : Type} {result : Except ε α} {a : α}
    (h : result.toOption = some a) : result = .ok a := by
  cases result with
  | error e => exact absurd h (Option.some_ne_none a).symm
  | ok b => exact congrArg Except.ok (Option.some.inj h)

/-- A filter that starts with a point: the filter command finds the record that it accepts, and
    the shell does not know the command. So the shell does not answer every filter with what the
    filter command writes. -/
theorem respond_unlike_filter :
    (∃ f records, Cql.parse ".5 < n" Settings.default.maxDepth = .ok f ∧
      Input.parse Settings.default.records "\x7b\"n\": 1\x7d\n" = .ok records ∧
      f.written records = "\x7b\"n\": 1\x7d\n" ∧
      respond Settings.default.maxDepth records ".5 < n"
        = .print "unknown command '.5 < n', try .help") ∧
    ¬ ∀ (settings : Settings) (line : String) (f : Filter) (records : List InputRecord),
      Text.trimmed line.toList = line.toList → line ≠ "" →
      Cql.parse line settings.maxDepth = .ok f →
      respond settings.maxDepth records line
        = .print (f.written records ++ summary (f.accepted records).length records.length) := by
  have hChecked : ((Cql.parse ".5 < n" Settings.default.maxDepth).toOption.any fun f =>
      (Input.parse Settings.default.records "\x7b\"n\": 1\x7d\n").toOption.any fun records =>
        decide (f.written records = "\x7b\"n\": 1\x7d\n")) = true := by
    decide +kernel
  obtain ⟨f, hSome, hRest⟩ := (Option.any_eq_true _ _).1 hChecked
  obtain ⟨records, hSome', hWritten⟩ := (Option.any_eq_true _ _).1 hRest
  have hParse := eq_ok_of_toOption hSome
  have hInput := eq_ok_of_toOption hSome'
  refine ⟨⟨f, records, hParse, hInput, of_decide_eq_true hWritten, ?_⟩, fun hAll => ?_⟩
  · rw [respond_of_parse hParse, if_pos (by decide)]
    rfl
  · have hLike := hAll _ _ f records (by decide) (by decide) hParse
    rw [respond_of_parse hParse, if_pos (by decide)] at hLike
    exact notACommand_ne _ _ _ _ hLike

end Shell

end GeoFilter
