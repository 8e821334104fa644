import GeoFilter.CommandLine
import GeoFilter.History
import GeoFilter.Program.Surroundings
import GeoFilter.Scan.Metrics
import GeoFilter.Shell

set_option autoImplicit false

/-! # Running the program

A run reads the settings, then does what the command says. A failure ends it with one line that
says why; what was written before stays. With diagnostics switched on, a run also reports what
it has done so far. -/

namespace GeoFilter.Program

variable {m : Type → Type} [Monad m]

/-! ## Settings -/

/-- The file with settings that is read, if there is one, when the command line names none. -/
def usualSettingsFile : String := "geocql.toml"

/-- Reads settings from a file. -/
def readSettings (s : Surroundings m) (path : String) : ExceptT Failure m Settings := do
  match ← s.readFile path with
  | .error cause => throw (.settingsUnreadable path cause)
  | .ok content =>
    match Settings.ofToml? content with
    | some settings => return settings
    | none => throw (.settingsMalformed path)

/-- The settings of a file; the options of the command line take precedence. -/
def settings (s : Surroundings m) (options : CommandLine.Options) :
    ExceptT Failure m Settings := do
  let settings ← match options.config with
    | some path => readSettings s path
    | none =>
      if ← s.isFile usualSettingsFile then readSettings s usualSettingsFile
      else pure .default
  return { settings with maxDepth := options.maxDepth.getD settings.maxDepth }

/-! ## What all commands share -/

/-- What a command needs to know of its run. -/
structure Context (m : Type → Type) where
  surroundings : Surroundings m
  settings : Settings
  debug : Bool

/-- Reports something, if diagnostics are switched on. -/
def Context.note (c : Context m) (text : String) : m Unit :=
  if c.debug then c.surroundings.report s!"[debug] {text}\n" else pure ()

/-- The filter that a text is. -/
def Context.parse (c : Context m) (source : String) : ExceptT Failure m Filter := do
  match Cql.parse source c.settings.maxDepth with
  | .error e => throw (.filter source e)
  | .ok f =>
    c.note s!"parsed: {f.toCql}"
    return f

/-- The records of a file, or of the input if no file is named. -/
def Context.load (c : Context m) (path : Option String) :
    ExceptT Failure m (List InputRecord) := do
  let content ← match path with
    | some path => c.surroundings.readFile path
    | none => c.surroundings.readInput
  match content with
  | .error cause => throw (.file cause)
  | .ok text =>
    match Input.parse c.settings.records text with
    | .error e => throw (.input e)
    | .ok records => return records

/-! ## Describing a filter, and finding records -/

/-- Describes a filter. -/
def check (c : Context m) (source : String) : ExceptT Failure m Unit := do
  let f ← c.parse source
  c.surroundings.print (f.describe ++ "\n")

/-- The sums of events, for diagnostics. -/
def showCounters (n : Counters) : String :=
  s!"EventOps \x7b parse_calls: {n.parseCalls}, parse_errors: {n.parseErrors}, " ++
    s!"cursor_calls: {n.cursorCalls}, records_scanned: {n.recordsScanned}, " ++
    s!"records_matched: {n.recordsMatched} \x7d"

/-- Writes the lines of the records that a filter accepts. Nothing is written unless the filter
    and all records are in order. -/
def filter [Relate] (c : Context m) (source : String) (input : Option String) :
    ExceptT Failure m Unit := do
  let f ← c.parse source
  let records ← c.load input
  c.note s!"loaded {records.length} record(s)"
  let (found, cursor) := f.select records
  c.surroundings.print (InputRecord.linesOf found)
  c.note s!"scanned {cursor.scanned}, matched {cursor.matched}"
  let counters := (Counters.zero.add (.parse true)).add (.cursor cursor.scanned cursor.matched)
  c.note s!"metrics: {showCounters counters}"

/-! ## The shell -/

/-- The history, and whether something was added since it was read. -/
structure Entered where
  history : History
  changed : Bool

/-- Adds a line to the history. -/
def Entered.add (e : Entered) (line : String) : Entered :=
  ⟨e.history.add line, e.changed || e.history.admits line⟩

/-- The history at the start of the shell, from its file if the settings name one that can be
    read. -/
def loadHistory (c : Context m) : m History := do
  let fresh := History.empty c.settings.shell.historySize
  match c.settings.shell.historyFile with
  | none => return fresh
  | some path =>
    match ← c.surroundings.readFile path with
    | .ok content => return fresh.load content
    | .error _ =>
      c.note s!"no history at {path}"
      return fresh

/-- Writes the history to its file if something was added. -/
def saveHistory (c : Context m) (entered : Entered) : ExceptT Failure m Unit := do
  match c.settings.shell.historyFile with
  | none => return
  | some path =>
    if entered.changed then
      match ← c.surroundings.writeFile path entered.history.save with
      | .ok () => return
      | .error cause => throw (.file cause)

/-- Answers a line of the shell; tells whether more lines are wanted. -/
def answer [Relate] (c : Context m) (records : List InputRecord) (entered : Entered)
    (line : String) : m (Entered × Bool) := do
  let line := Shell.taken line
  if line = "" then return (entered, true)
  if let some source := (Shell.Entry.ofLine line).source? then
    if let .ok f := Cql.parse source c.settings.maxDepth then
      c.note s!"parsed: {f.toCql}"
  match Shell.respond c.settings.maxDepth records line with
  | .print text =>
    c.surroundings.print (text ++ "\n")
    return (entered.add line, true)
  | .quit => return (entered.add line, false)

/-- What the shell says at its start. -/
def banner (loaded : Nat) : String :=
  s!"{CommandLine.programName} {CommandLine.version}: {loaded} record(s) loaded, " ++
    ".help for commands\n"

/-- Answers lines about the records of a file, or about none. -/
def shell [Relate] (c : Context m) (input : Option String) : ExceptT Failure m Unit := do
  let records ← match input with
    | some path => c.load (some path)
    | none => pure []
  let history ← (loadHistory c : m History)
  c.surroundings.print (banner records.length)
  let entered ← (c.surroundings.forLines (answer c records) ⟨history, false⟩ : m Entered)
  saveHistory c entered

/-! ## Whole runs -/

/-- Does what a command says. -/
def execute [Relate] (s : Surroundings m) (options : CommandLine.Options)
    (command : CommandLine.Command) : ExceptT Failure m Unit := do
  let settings ← settings s options
  let c : Context m := ⟨s, settings, options.debug⟩
  c.note s!"config: {settings.display}"
  match command with
  | .check source => check c source
  | .filter source input => filter c source input
  | .shell input => shell c input

/-- What the program can be asked for. -/
def usage : String :=
  "Parse and evaluate CQL filters\n\n" ++
  "Usage: geocql [OPTIONS] <COMMAND>\n\n" ++
  "Commands:\n" ++
  "  check <CQL>              Parse a filter and print its canonical form\n" ++
  "  filter <CQL> [-i FILE]   Print the JSON-lines records a filter accepts\n" ++
  "  shell [-i FILE]          Interactive shell evaluating filters against loaded records\n\n" ++
  "Options:\n" ++
  "      --config <FILE>      Path to config file (defaults to ./geocql.toml when present)\n" ++
  "      --debug              Print [debug] lines to stderr\n" ++
  "      --max-depth <N>      Override the parser nesting limit\n" ++
  "  -i, --input <FILE>       JSON-lines file (stdin when omitted)\n" ++
  "  -h, --help               Print help\n" ++
  "  -V, --version            Print version\n"

/-- How a run ended. -/
inductive Exit where
  | success
  | failure
  | misuse
  deriving DecidableEq, Repr

/-- The number by which the system knows how a run ended. -/
def Exit.code : Exit → Nat
  | success => 0
  | failure => 1
  | misuse => 2

/-- Runs the program. -/
def run [Relate] (s : Surroundings m) (arguments : List String) : m Exit := do
  match CommandLine.parse arguments with
  | none =>
    s.report usage
    return .misuse
  | some .showHelp =>
    s.print usage
    return .success
  | some .showVersion =>
    s.print s!"{CommandLine.programName} {CommandLine.version}\n"
    return .success
  | some (.run options command) =>
    match ← (execute s options command).run with
    | .ok () => return .success
    | .error failure =>
      s.report s!"error: {failure.message}\n"
      return .failure

end GeoFilter.Program
