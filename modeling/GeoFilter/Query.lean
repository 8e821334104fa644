import GeoFilter.Cql.Printer
import GeoFilter.Input
import GeoFilter.Report
import GeoFilter.Scan.Cursor

set_option autoImplicit false

/-! # Asking for records

What the commands do with one filter text: describe the filter, find the records that it
accepts, or show where the text is wrong, with a caret below the character. -/

namespace GeoFilter

namespace Cql.SyntaxError

/-- The number of characters of a text that start before a byte. -/
def columnAt (offset : Nat) : List Char → Nat
  | [] => 0
  | c :: cs => if offset = 0 then 0 else columnAt (offset - c.utf8Size) cs + 1

/-- The wording, the source, and a caret below the place. -/
def render (e : SyntaxError) (source : String) : String :=
  let caret := String.ofList (List.replicate (columnAt e.offset source.toList) ' ')
  s!"{e.message}\n  {source}\n  {caret}^"

end Cql.SyntaxError

namespace Filter

/-- A filter's text and the attributes that it looks up. -/
def describe (f : Filter) : String :=
  let names := if f.attributes.isEmpty then "(none)" else String.intercalate ", " f.attributes
  s!"{f.toCql}\nattributes: {names}"

/-- The records of an input that a filter accepts, and the cursor at their end. -/
def select [Relate] (f : Filter) (records : List InputRecord) :
    List InputRecord × Cursor InputRecord :=
  (Cursor.start f (fun r => r.record.view) records).drain

end Filter

/-- The lines of records, each with its line end. -/
def InputRecord.linesOf (records : List InputRecord) : String :=
  String.join (records.map fun r => r.line ++ "\n")

end GeoFilter
