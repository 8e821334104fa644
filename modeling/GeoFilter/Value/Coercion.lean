import GeoFilter.Geometry.Wkt.Reader
import GeoFilter.Geometry.Wkt.Writer
import GeoFilter.Value.Basic

set_option autoImplicit false

/-! # Reading a value in another shape

Each coercion is total: it yields the value in the shape asked for, or nothing. Text can be read
as a finite number, a truth value or a geometry; numbers and truth values can be read as text;
missing values can be read as nothing at all. -/

namespace GeoFilter

/-- Reads trimmed text as a finite number. -/
def Number.ofText? (s : String) : Option Float :=
  (Number.readFloat (Text.trimmed s.toList)).filter Float.isFinite

/-- Reads trimmed text as a truth value, in any ASCII case. -/
def boolOfText? (s : String) : Option Bool :=
  let word := Text.trim s
  if Text.sameLetters word "true" then some true
  else if Text.sameLetters word "false" then some false
  else none

namespace Value

/-- The value as a number. A number is taken as it is, even when it is not finite. -/
def asNumber : Value → Option Float
  | number x => some x
  | text s => Number.ofText? s
  | _ => none

/-- The value as text. Numbers are written in canonical digits. -/
def asText : Value → Option String
  | text s => some s
  | number x => some (Number.canonical x)
  | bool b => some (if b then "true" else "false")
  | _ => none

/-- The value as a truth value. -/
def asBool : Value → Option Bool
  | bool b => some b
  | text s => boolOfText? s
  | _ => none

/-- The value as a geometry. -/
def asGeometry : Value → Option Geometry
  | geometry g => some g
  | text s => (Geometry.ofWkt s).toOption
  | _ => none

/-- The value as it is shown to a reader. -/
def display : Value → String
  | absent => "<absent>"
  | null => "NULL"
  | number x => Number.canonical x
  | text s => s
  | bool b => if b then "true" else "false"
  | geometry g => g.toWkt

end Value

end GeoFilter
