import GeoFilter.Cql.Parser
import GeoFilter.Text.Blank
import GeoFilter.Text.Quoted
import GeoFilter.Toml.Reader

set_option autoImplicit false

/-! # Settings

Settings say which fields of a record hold its identifier and its geometry, how deep filters may
nest, and where the shell keeps its history. They are read from a TOML document with a table for
each of the three; everything that is not given has a default. A table may also be given as an
array of its values in their order. Only the table for filters may hold other keys. -/

namespace GeoFilter

/-- Which fields of a record have a meaning of their own. -/
structure RecordSettings where
  idField : Option String
  geometryField : Option String
  deriving DecidableEq

/-- Where the shell keeps its history, and how much of it. -/
structure ShellSettings where
  historyFile : Option String
  historySize : Nat
  deriving DecidableEq

/-- All settings. -/
structure Settings where
  records : RecordSettings
  maxDepth : Nat
  shell : ShellSettings
  deriving DecidableEq

namespace Settings

/-- The settings where nothing is given. -/
def default : Settings := ⟨⟨none, none⟩, Cql.defaultMaxDepth, ⟨none, 1000⟩⟩

/-! ## Reading -/

/-- A table's value for a key that may be missing. -/
def optional {α : Type} (read : Toml → Option α) (missing : α) : Option Toml → Option α
  | none => some missing
  | some value => read value

/-- A setting that is text. -/
def text? : Toml → Option (Option String)
  | .string s => some (some s)
  | _ => none

/-- A setting that is a size. -/
def size? : Toml → Option Nat
  | .integer n => if 0 ≤ n then some n.toNat else none
  | _ => none

/-- The values of a table for its keys, in their order. A table that is closed has no others. -/
def values (keys : List String) (closed : Bool) : Toml → Option (List (Option Toml))
  | .table _ entries =>
    if closed && !entries.all (fun entry => keys.contains entry.1) then none
    else some (keys.map fun key => Toml.find? key entries)
  | .array items => some ((List.range keys.length).map fun i => items[i]?)
  | .tables elements =>
    let items := elements.reverse.map (Toml.table .header)
    some ((List.range keys.length).map fun i => items[i]?)
  | _ => none

/-- The settings for records. -/
def records? (table : Toml) : Option RecordSettings := do
  match ← values ["id_field", "geometry_field"] true table with
  | [id, geometry] => some ⟨← optional text? none id, ← optional text? none geometry⟩
  | _ => none

/-- The setting for filters. -/
def parse? (table : Toml) : Option Nat := do
  match ← values ["max_depth"] false table with
  | [depth] => optional size? default.maxDepth depth
  | _ => none

/-- The settings for the shell. -/
def shell? (table : Toml) : Option ShellSettings := do
  match ← values ["history_file", "history_size"] true table with
  | [file, size] =>
    some ⟨← optional text? none file, ← optional size? default.shell.historySize size⟩
  | _ => none

/-- Reads settings from a TOML document; a blank one gives the default. -/
def ofToml? (content : String) : Option Settings := do
  if Text.isAllBlank content then some default
  else
    match ← values ["records", "parse", "shell"] true (.table .header (← Toml.parse content)) with
    | [records, parse, shell] =>
      some ⟨← optional records? default.records records, ← optional parse? default.maxDepth parse,
        ← optional shell? default.shell shell⟩
    | _ => none

/-! ## Showing -/

/-- Something that may be missing, for diagnostics. -/
def showOption (quoted : String → String) : Option String → String
  | none => "None"
  | some s => "Some(" ++ quoted s ++ ")"

/-- All settings on one line, for diagnostics. -/
def display (s : Settings) : String :=
  "Config \x7b records: RecordConfig \x7b id_field: " ++ showOption Text.quoted s.records.idField ++
    ", geometry_field: " ++ showOption Text.quoted s.records.geometryField ++
    " \x7d, parse: ParseOptions \x7b max_depth: " ++ toString s.maxDepth ++
    " \x7d, shell: ShellConfig \x7b history_file: " ++
    showOption Text.quotedPath s.shell.historyFile ++
    ", history_size: " ++ toString s.shell.historySize ++ " \x7d \x7d"

end Settings

end GeoFilter
