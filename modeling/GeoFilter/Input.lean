import GeoFilter.Json.Printer
import GeoFilter.Json.Reader
import GeoFilter.Record.Basic
import GeoFilter.Settings
import GeoFilter.Text.Lines
import GeoFilter.Value.Coercion

set_option autoImplicit false

/-! # Records from lines

Each line of the input that is not blank holds one record as a JSON object. Its members become
attributes: missing values, truth values, numbers and texts as they are, arrays and objects as
their JSON text. The settings may name the member that holds the identifier and the one that
holds the geometry as text. -/

namespace GeoFilter

/-- A record with the line that it was read from. -/
structure InputRecord where
  line : String
  record : Record

/-- Why a line was refused. -/
inductive LineProblem where
  | invalidJson
  | notAnObject
  | invalidGeometry (field : String) (reason : WktError)
  | notGeometryText (field : String)

/-- The wording of a problem. The word `json` stands for the wording of a JSON reader, which says in
    its own terms why a text is refused, and where. -/
def LineProblem.message : LineProblem → String
  | invalidJson => "json"
  | notAnObject => "expected a JSON object"
  | invalidGeometry field reason => s!"field '{field}': {reason.message}"
  | notGeometryText field => s!"field '{field}' must hold WKT text"

/-- A line that was refused, by its number. -/
structure InputError where
  line : Nat
  problem : LineProblem

/-- The wording, with the number of the line. -/
def InputError.message (e : InputError) : String :=
  s!"input line {e.line}: {e.problem.message}"

namespace Input

/-- The value of an attribute. -/
def value : Json → Value
  | .null => .null
  | .bool b => .bool b
  | .string s => .text s
  | .integer n => .number (Number.ofInt n)
  | .float x => .number x
  | nested => .text nested.print

/-- The value of the attribute that holds the geometry. -/
def geometryValue (field : String) : Json → Except LineProblem Value
  | .null => .ok .null
  | .string s =>
    match Geometry.ofWkt s with
    | .ok g => .ok (.geometry g)
    | .error e => .error (.invalidGeometry field e)
  | _ => .error (.notGeometryText field)

/-- The identifier that a member gives. -/
def idText? : Json → Option String
  | .string s => some s
  | .integer n => some (Number.canonical (Number.ofInt n))
  | .float x => some (Number.canonical x)
  | _ => none

/-- Adds a member to a record. -/
def addMember (settings : RecordSettings) (r : Record) (member : String × Json) :
    Except LineProblem Record := do
  let (name, json) := member
  let r : Record :=
    if settings.idField = some name then
      match idText? json with
      | some id => r.withId id
      | none => r
    else r
  let v ← if settings.geometryField = some name then geometryValue name json
    else .ok (value json)
  .ok (r.insert name v)

/-- The record on a line. -/
def parseRecord (settings : RecordSettings) (line : String) : Except LineProblem Record :=
  match (Json.parse line).map Json.ordered with
  | none => .error .invalidJson
  | some (.object members) =>
    (members.foldlM (addMember settings) Record.empty).map fun r =>
      match settings.geometryField with
      | some field => r.withGeometryName field
      | none => r
  | some _ => .error .notAnObject

/-- The records on lines of which the first has number `first`. Blank lines hold none. -/
def parseNumbered (settings : RecordSettings) (first : Nat) :
    List String → Except InputError (List InputRecord)
  | [] => .ok []
  | line :: lines =>
    if Text.isAllBlank line then parseNumbered settings (first + 1) lines
    else
      match parseRecord settings line with
      | .error problem => .error ⟨first, problem⟩
      | .ok record =>
        (parseNumbered settings (first + 1) lines).map fun others => ⟨line, record⟩ :: others

/-- The records of an input. -/
def parse (settings : RecordSettings) (input : String) : Except InputError (List InputRecord) :=
  parseNumbered settings 1 (Text.lines input)

end Input

end GeoFilter
