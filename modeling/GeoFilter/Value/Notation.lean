import GeoFilter.Json.Printer
import GeoFilter.Json.Reader
import GeoFilter.Value.Basic

set_option autoImplicit false

/-! # Values in JSON

A value is written as an object with one member, named for its kind, and the two missing values
as strings. A geometry is written in the same way inside; coordinates, rings and the parts of
fixed shapes are objects with a member for each part.

Reading takes what writing gives, and also a missing value as an object with a null member, and
the parts of an object as an array in their order. Members that are not parts are skipped. -/

namespace GeoFilter

namespace Notation

/-! ## Writing -/

/-- A coordinate as JSON. -/
def coordJson (c : Coord) : Json := .object [("x", .float c.x), ("y", .float c.y)]

/-- A path as JSON. -/
def pathJson (path : Path) : Json := .array (path.map coordJson)

/-- A polygon as JSON. -/
def polygonJson (shape : Polygon) : Json :=
  .object [("exterior", pathJson shape.exterior),
    ("interiors", .array (shape.interiors.map pathJson))]

mutual

/-- A geometry as JSON. -/
def geometryJson : Geometry → Json
  | .point position => .object [("Point", coordJson position)]
  | .line start finish =>
    .object [("Line", .object [("start", coordJson start), ("end", coordJson finish)])]
  | .lineString path => .object [("LineString", pathJson path)]
  | .polygon shape => .object [("Polygon", polygonJson shape)]
  | .multiPoint positions => .object [("MultiPoint", pathJson positions)]
  | .multiLineString paths => .object [("MultiLineString", .array (paths.map pathJson))]
  | .multiPolygon shapes => .object [("MultiPolygon", .array (shapes.map polygonJson))]
  | .collection members => .object [("GeometryCollection", .array (geometryJsons members))]
  | .rect low high => .object [("Rect", .object [("min", coordJson low), ("max", coordJson high)])]
  | .triangle a b c => .object [("Triangle", pathJson [a, b, c])]

/-- The members of a collection, one by one. -/
def geometryJsons : List Geometry → List Json
  | [] => []
  | member :: rest => geometryJson member :: geometryJsons rest

end

/-- A value as JSON. -/
def valueJson : Value → Json
  | .absent => .string "Absent"
  | .null => .string "Null"
  | .number x => .object [("Number", .float x)]
  | .text s => .object [("Text", .string s)]
  | .bool b => .object [("Bool", .bool b)]
  | .geometry g => .object [("Geometry", geometryJson g)]

/-! ## Reading -/

/-- The items of an array. -/
def items? : Json → Option (List Json)
  | .array items => some items
  | _ => none

/-- The members with a name, of which there must be exactly one. -/
def part? (members : List (String × Json)) (name : String) : Option Json :=
  match members.filter fun member => member.1 = name with
  | [(_, json)] => some json
  | _ => none

/-- The parts of a value that are written as members with given names, or as an array. -/
def parts? (names : List String) : Json → Option (List Json)
  | .object members => names.mapM (part? members)
  | .array items => if items.length = names.length then some items else none
  | _ => none

/-- The coordinate that a JSON value is. -/
def coord? (json : Json) : Option Coord := do
  match ← parts? ["x", "y"] json with
  | [x, y] => return ⟨← x.number?, ← y.number?⟩
  | _ => none

/-- The path that a JSON value is. -/
def path? (json : Json) : Option Path := do (← items? json).mapM coord?

/-- The polygon that a JSON value is. -/
def polygon? (json : Json) : Option Polygon := do
  match ← parts? ["exterior", "interiors"] json with
  | [exterior, interiors] => return ⟨← path? exterior, ← (← items? interiors).mapM path?⟩
  | _ => none

/-- Two coordinates as named parts. -/
def corners? (names : List String) (json : Json) : Option (Coord × Coord) := do
  match ← parts? names json with
  | [a, b] => return (← coord? a, ← coord? b)
  | _ => none

mutual

/-- The geometry that a JSON value is. -/
def readGeometry : Json → Option Geometry
  | .object [("Point", json)] => (coord? json).map .point
  | .object [("Line", json)] => (corners? ["start", "end"] json).map fun (a, b) => .line a b
  | .object [("LineString", json)] => (path? json).map .lineString
  | .object [("Polygon", json)] => (polygon? json).map .polygon
  | .object [("MultiPoint", json)] => (path? json).map .multiPoint
  | .object [("MultiLineString", .array items)] => (items.mapM path?).map .multiLineString
  | .object [("MultiPolygon", .array items)] => (items.mapM polygon?).map .multiPolygon
  | .object [("GeometryCollection", .array items)] => (readGeometries items).map .collection
  | .object [("Rect", json)] => (corners? ["min", "max"] json).map fun (a, b) => .rect a b
  | .object [("Triangle", json)] =>
    match path? json with
    | some [a, b, c] => some (.triangle a b c)
    | _ => none
  | _ => none

/-- The members of a collection, one by one. -/
def readGeometries : List Json → Option (List Geometry)
  | [] => some []
  | json :: rest => do return (← readGeometry json) :: (← readGeometries rest)

end

/-- The value that a JSON value is. -/
def value? : Json → Option Value
  | .string "Absent" => some .absent
  | .string "Null" => some .null
  | .object [("Absent", .null)] => some .absent
  | .object [("Null", .null)] => some .null
  | .object [("Number", json)] => json.number?.map .number
  | .object [("Text", .string s)] => some (.text s)
  | .object [("Bool", .bool b)] => some (.bool b)
  | .object [("Geometry", json)] => (readGeometry json).map .geometry
  | _ => none

end Notation

/-- The JSON text of a value. -/
def Value.toJsonText (v : Value) : String := (Notation.valueJson v).print

/-- Reads a value from JSON text. -/
def Value.ofJsonText? (text : String) : Option Value := (Json.parse text).bind Notation.value?

end GeoFilter
