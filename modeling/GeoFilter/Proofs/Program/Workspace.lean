import GeoFilter.Program.Run
import GeoFilter.Program.Workspace

set_option autoImplicit false

/-! # Runs on a workspace

What the parts that all commands share do to a workspace: each action has one outcome and leaves
one workspace behind, so a run is taken apart action by action. -/

namespace GeoFilter

namespace Workspace

/-- The outcome of an action that may fail, with the workspace that it leaves behind. -/
def outcome {α : Type} (action : ExceptT Failure (StateM Workspace) α) (w : Workspace) :
    Except Failure α × Workspace := action.run.run w

/-! ## Actions one after the other -/

section

variable {α β : Type} {action : ExceptT Failure (StateM Workspace) α}
  {next : α → ExceptT Failure (StateM Workspace) β} {w w' : Workspace}

theorem outcome_bind_ok {a : α} (h : outcome action w = (.ok a, w')) :
    outcome (action >>= next) w = outcome (next a) w' := by
  have hRun : action.run.run w = (.ok a, w') := h
  simp only [outcome, ExceptT.run_bind, StateT.run_bind, hRun]
  rfl

theorem outcome_bind_error {failure : Failure} (h : outcome action w = (.error failure, w')) :
    outcome (action >>= next) w = (.error failure, w') := by
  have hRun : action.run.run w = (.error failure, w') := h
  simp only [outcome, ExceptT.run_bind, StateT.run_bind, hRun]
  rfl

/-- Two actions that change nothing change nothing one after the other. -/
theorem bind_leaves (h : (outcome action w).2 = w) (hNext : ∀ a, (outcome (next a) w).2 = w) :
    (outcome (action >>= next) w).2 = w := by
  rcases hAction : outcome action w with ⟨_ | a, w'⟩
  · rw [outcome_bind_error hAction]
    rwa [hAction] at h
  · rw [outcome_bind_ok hAction]
    rw [hAction] at h
    obtain rfl : w' = w := h
    exact hNext a

end

/-! ## What a run leaves behind -/

/-- The workspace after more was written for the user. -/
def prints (w : Workspace) (text : String) : Workspace := { w with printed := w.printed ++ text }

/-- The workspace after more was written about the run. -/
def reports (w : Workspace) (text : String) : Workspace :=
  { w with reported := w.reported ++ text }

/-- The content of a file, or of the input if no file is named. -/
def content (w : Workspace) : Option String → Except FileError String
  | some path => w.read path
  | none => .ok w.input

/-- The workspace after that content was read: the input can be read only once. -/
def taken (w : Workspace) : Option String → Workspace
  | some _ => w
  | none => { w with input := "" }

theorem reports_empty (w : Workspace) : w.reports "" = w := by
  simp [reports]

theorem reports_reports (w : Workspace) (s t : String) :
    (w.reports s).reports t = w.reports (s ++ t) := by
  simp [reports, String.append_assoc]

theorem prints_reports (w : Workspace) (s t : String) :
    (w.reports s).prints t = (w.prints t).reports s := rfl

theorem taken_reports (w : Workspace) (text : String) (input : Option String) :
    (w.reports text).taken input = (w.taken input).reports text := by
  cases input <;> rfl

/-- What is found at a path depends on the files only. -/
theorem walk_reports (w : Workspace) (text : String) (directory parts : List String) :
    (w.reports text).walk directory parts = w.walk directory parts := by
  induction parts generalizing directory with
  | nil => rfl
  | cons part rest ih =>
    simp only [walk, ih]
    rfl

theorem content_reports (w : Workspace) (text : String) (input : Option String) :
    (w.reports text).content input = w.content input := by
  cases input with
  | none => rfl
  | some path => simp only [content, read, place, walk_reports]

end Workspace

namespace Program

open Workspace

variable (w : Workspace)

/-! ## Settings -/

theorem readSettings_leaves (path : String) :
    (outcome (readSettings surroundings path) w).2 = w := by
  refine bind_leaves rfl fun content => ?_
  split
  · rfl
  · split
    · rfl
    · rfl

/-- Finding the settings changes nothing. -/
theorem settings_leaves (options : CommandLine.Options) :
    (outcome (Program.settings surroundings options) w).2 = w := by
  unfold Program.settings
  split
  · exact bind_leaves (readSettings_leaves w _) fun _ => rfl
  · refine bind_leaves rfl fun found => ?_
    split
    · exact bind_leaves (readSettings_leaves w _) fun _ => rfl
    · rfl

/-! ## What all commands share -/

/-- What diagnostics add to the report. -/
def noted (debug : Bool) (notes : List String) : String :=
  if debug then String.join (notes.map fun note => s!"[debug] {note}\n") else ""

theorem noted_append (debug : Bool) (notes more : List String) :
    noted debug notes ++ noted debug more = noted debug (notes ++ more) := by
  cases debug with
  | false => rfl
  | true => simp [noted]

/-- What a command on a workspace needs to know. -/
def onWorkspace (settings : Settings) (debug : Bool) : Context (StateM Workspace) :=
  ⟨surroundings, settings, debug⟩

variable (settings : Settings) (debug : Bool)

theorem outcome_note (text : String) :
    outcome ((onWorkspace settings debug).note text) w
      = (.ok (), w.reports (noted debug [text])) := by
  cases debug with
  | false => rw [noted, if_neg Bool.false_ne_true, reports_empty]; rfl
  | true =>
    rw [noted, if_pos rfl, List.map_singleton, String.join_cons, String.join_nil,
      String.append_empty]
    rfl

theorem outcome_print (text : String) :
    outcome (surroundings.print text) w = (.ok (), w.prints text) := rfl

theorem outcome_parse_error {source : String} {e : Cql.SyntaxError}
    (h : Cql.parse source settings.maxDepth = .error e) :
    outcome ((onWorkspace settings debug).parse source) w = (.error (.filter source e), w) := by
  have hParse : Cql.parse source (onWorkspace settings debug).settings.maxDepth = .error e := h
  rw [Context.parse, hParse]
  rfl

theorem outcome_parse_ok {source : String} {f : Filter}
    (h : Cql.parse source settings.maxDepth = .ok f) :
    outcome ((onWorkspace settings debug).parse source) w
      = (.ok f, w.reports (noted debug [s!"parsed: {f.toCql}"])) := by
  have hParse : Cql.parse source (onWorkspace settings debug).settings.maxDepth = .ok f := h
  rw [Context.parse, hParse]
  exact outcome_bind_ok (outcome_note w settings debug _)

/-- The records of input that was parsed, or the failure to parse it. -/
def recordsOf (parsed : Except InputError (List InputRecord)) :
    ExceptT Failure (StateM Workspace) (List InputRecord) :=
  match parsed with
  | .error e => throw (.input e)
  | .ok records => pure records

theorem outcome_recordsOf (parsed : Except InputError (List InputRecord)) :
    outcome (recordsOf parsed) w = (parsed.mapError .input, w) := by
  cases parsed <;> rfl

/-- Loading reads the content, and fails where that does not give records. -/
theorem outcome_load {input : Option String} {text : String} (h : w.content input = .ok text) :
    outcome ((onWorkspace settings debug).load input) w
      = ((Input.parse settings.records text).mapError .input, w.taken input) := by
  have hParse (w' : Workspace) := outcome_recordsOf w' (Input.parse settings.records text)
  cases input with
  | none =>
    obtain rfl := Except.ok.inj h
    exact hParse _
  | some path =>
    have hRead : outcome (surroundings.readFile path) w = (.ok (.ok text), w) :=
      congrArg (fun content => (Except.ok content, w)) h
    exact (outcome_bind_ok hRead).trans (hParse w)

/-! ## Whole runs -/

/-- With its settings found, a run does what its command says. -/
theorem outcome_execute [Relate] {options : CommandLine.Options} {settings : Settings}
    (h : (outcome (Program.settings surroundings options) w).1 = .ok settings)
    (command : CommandLine.Command) :
    outcome (execute surroundings options command) w
      = outcome (match command with
          | .check source => check (onWorkspace settings options.debug) source
          | .filter source input => filter (onWorkspace settings options.debug) source input
          | .shell input => shell (onWorkspace settings options.debug) input)
        (w.reports (noted options.debug [s!"config: {settings.display}"])) := by
  have hSettings : outcome (Program.settings surroundings options) w = (.ok settings, w) :=
    Prod.ext h (settings_leaves w options)
  refine (outcome_bind_ok hSettings).trans ?_
  exact outcome_bind_ok (outcome_note w settings options.debug _)

/-- A command line that asks for a command is answered by what the command does; only a failure
    adds to the report. -/
theorem run_command [Relate] {arguments : List String} {options : CommandLine.Options}
    {command : CommandLine.Command}
    (h : CommandLine.parse arguments = some (.run options command)) :
    (run surroundings arguments).run w =
      match outcome (execute surroundings options command) w with
      | (.ok _, w') => (Exit.success, w')
      | (.error failure, w') => (Exit.failure, w'.reports s!"error: {failure.message}\n") := by
  rw [run, h]
  simp only [StateT.run_bind]
  have hOutcome : ((execute surroundings options command).run).run w
      = outcome (execute surroundings options command) w := rfl
  rw [hOutcome]
  rcases outcome (execute surroundings options command) w with ⟨failure | _, w'⟩
  · rfl
  · rfl

end Program

end GeoFilter
