import GeoFilter.Geometry.Basic
import GeoFilter.Geometry.Wkt.Token
import GeoFilter.Text.Blank
import GeoFilter.Text.Letters

set_option autoImplicit false

/-! # Reading geometry text

A geometry is a type word in any case, an optional dimension word `Z`, `M` or `ZM` (or the same
letters glued to the type word), and then `EMPTY` or a body in parentheses. Each coordinate has
two numbers and one more for each of `Z` and `M`; only the first two are kept. A collection
holds whole geometries, each with a dimension of its own.

What follows a complete geometry is ignored. An empty point has no coordinates to keep and
becomes a multi-point without members. -/

namespace GeoFilter

/-- Why geometry text was refused. -/
inductive WktError where
  | malformed
  | tooDeep
  | notFinite
  deriving DecidableEq, Repr

namespace Wkt

/-- The deepest nesting of parentheses that is read. -/
def maxDepth : Nat := 64

/-! ## Nesting -/

/-- The deepest nesting of parentheses in a text that starts at depth `depth`. A closing
    parenthesis without its opening one changes nothing. -/
def deepest (depth : Nat) : List Char → Nat
  | [] => depth
  | c :: cs =>
    if c = '(' then deepest (depth + 1) cs
    else if c = ')' then max depth (deepest (depth - 1) cs)
    else deepest depth cs

/-! ## Type words -/

/-- The types of geometry that text can name. -/
inductive Kind where
  | point
  | lineString
  | linearRing
  | polygon
  | multiPoint
  | multiLineString
  | multiPolygon
  | collection
  deriving DecidableEq

namespace Kind

/-- The word in upper case. -/
def word : Kind → String
  | point => "POINT"
  | lineString => "LINESTRING"
  | linearRing => "LINEARRING"
  | polygon => "POLYGON"
  | multiPoint => "MULTIPOINT"
  | multiLineString => "MULTILINESTRING"
  | multiPolygon => "MULTIPOLYGON"
  | collection => "GEOMETRYCOLLECTION"

/-- All kinds. -/
def all : List Kind :=
  [point, lineString, linearRing, polygon, multiPoint, multiLineString, multiPolygon, collection]

/-- The numbers beyond two that the dimension word `Z`, `M` or `ZM` adds to a coordinate. -/
def extraOf (text : String) : Option Nat :=
  if Text.sameLetters text "Z" ∨ Text.sameLetters text "M" then some 1
  else if Text.sameLetters text "ZM" then some 2
  else none

/-- The type that a word names, with the dimension letters glued to it if there are some. -/
def ofWord (text : String) : Option (Kind × Option Nat) :=
  let letters := text.toList.map Char.toUpper
  all.findSome? fun kind =>
    let name := kind.word.toList
    if letters = name then some (kind, none)
    else if kind = linearRing then none
    else if name.isPrefixOf letters then
      (extraOf (String.ofList (letters.drop name.length))).map fun extra => (kind, some extra)
    else none

end Kind

/-! ## Parts -/

/-- The result of reading a part: what was read and the tokens after it. -/
abbrev Step (α : Type) := Option (α × List Token)

/-- Takes `count` numbers away. -/
def dropNumbers : Nat → List Token → Option (List Token)
  | 0, ts => some ts
  | count + 1, .number _ :: ts => dropNumbers count ts
  | _ + 1, _ => none

/-- Reads one coordinate with `extra` numbers after the first two. -/
def readCoord (extra : Nat) : List Token → Step Coord
  | .number x :: .number y :: ts => (dropNumbers extra ts).map fun rest => (⟨x, y⟩, rest)
  | _ => none

/-- Reads a list separated by commas, of at most `limit` items. -/
def readList {α : Type} (item : List Token → Step α) : Nat → List Token → Step (List α)
  | 0, _ => none
  | limit + 1, ts =>
    match item ts with
    | none => none
    | some (first, .comma :: rest) =>
      (readList item limit rest).map fun (others, after) => (first :: others, after)
    | some (first, rest) => some ([first], rest)

/-- Reads a list separated by commas; every item takes a token, which bounds their number. -/
def readItems {α : Type} (item : List Token → Step α) (ts : List Token) : Step (List α) :=
  readList item ts.length ts

/-- Reads `EMPTY`, or a body between parentheses. -/
def readBody {α : Type} (empty : α) (body : List Token → Step α) : List Token → Step α
  | .opening :: ts =>
    match body ts with
    | some (a, .closing :: rest) => some (a, rest)
    | _ => none
  | .word text :: ts => if Text.sameLetters text "EMPTY" then some (empty, ts) else none
  | _ => none

/-- Reads the coordinates of a path, or `EMPTY`. -/
def readPath (extra : Nat) : List Token → Step Path := readBody [] (readItems (readCoord extra))

/-- Reads the rings of a polygon, or `EMPTY`. -/
def readPolygon (extra : Nat) (ts : List Token) : Step Polygon :=
  (readBody [] (readItems (readPath extra)) ts).map fun (rings, rest) =>
    (.ofRings rings, rest)

/-- Reads a coordinate that may stand in parentheses of its own. -/
def readMember (extra : Nat) : List Token → Step Coord
  | .opening :: ts =>
    match readCoord extra ts with
    | some (c, .closing :: rest) => some (c, rest)
    | _ => none
  | ts => readCoord extra ts

/-- Reads the dimension word, if the type word carried none. -/
def readDimension : Option Nat → List Token → Step Nat
  | some extra, ts => some (extra, ts)
  | none, [] => none
  | none, .malformed :: _ => none
  | none, .word text :: ts =>
    match Kind.extraOf text with
    | some extra => some (extra, ts)
    | none => if Text.sameLetters text "EMPTY" then some (0, .word text :: ts) else none
  | none, ts => some (0, ts)

/-! ## Geometries -/

/-- Makes a geometry of what a step read. -/
def Step.into {α : Type} (make : α → Geometry) (step : Step α) : Step Geometry :=
  step.map fun (a, rest) => (make a, rest)

/-- Reads what follows the words of a geometry, given how to read a member of a collection. -/
def readKind (member : List Token → Step Geometry) (extra : Nat) (ts : List Token) :
    Kind → Step Geometry
  | .point => readBody (.multiPoint []) (fun ts => Step.into .point (readCoord extra ts)) ts
  | .lineString | .linearRing => Step.into .lineString (readPath extra ts)
  | .polygon => Step.into .polygon (readPolygon extra ts)
  | .multiPoint => Step.into .multiPoint (readBody [] (readItems (readMember extra)) ts)
  | .multiLineString => Step.into .multiLineString (readBody [] (readItems (readPath extra)) ts)
  | .multiPolygon => Step.into .multiPolygon (readBody [] (readItems (readPolygon extra)) ts)
  | .collection => Step.into .collection (readBody [] (readItems member) ts)

/-- Reads a geometry with fewer than `levels` collections around each other. -/
def readGeometry : Nat → List Token → Step Geometry
  | levels + 1, .word text :: ts =>
    match Kind.ofWord text with
    | none => none
    | some (kind, glued) =>
      match readDimension glued ts with
      | none => none
      | some (extra, rest) => readKind (readGeometry levels) extra rest kind
  | _, _ => none

end Wkt

/-- Reads geometry text. Too deep a nesting is told from the text alone, before it is read; a
    coordinate that is not finite is told last. -/
def Geometry.ofWkt (text : String) : Except WktError Geometry :=
  let cs := Text.trimmed text.toList
  if Wkt.maxDepth < Wkt.deepest 0 cs then .error .tooDeep
  else
    match Wkt.readGeometry (Wkt.maxDepth + 1) (Wkt.tokens cs) with
    | none => .error .malformed
    | some (g, _) => if g.isFinite then .ok g else .error .notFinite

/-- The wording of a refusal. For malformed text, `malformed WKT` stands for the wording of a reader
    of geometries, which says in its own terms what it did not expect. -/
def WktError.message : WktError → String
  | .malformed => "malformed WKT"
  | .tooDeep => "WKT nested deeper than 64 levels"
  | .notFinite => "WKT coordinate is not a finite number"

end GeoFilter
