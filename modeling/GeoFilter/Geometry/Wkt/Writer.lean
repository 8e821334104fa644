import GeoFilter.Geometry.Basic
import GeoFilter.Number.Text

set_option autoImplicit false

/-! # Writing geometry text

A geometry is written in the upper-case type word followed at once by its body, with commas
between parts and one space between the two numbers of a coordinate; a geometry without parts
is written with the word `EMPTY`. A segment is written as a line string, and a rectangle or a
triangle as a closed polygon. -/

namespace GeoFilter

namespace Wkt

/-- Puts commas between parts. -/
def commas : List (List Char) → List Char
  | [] => []
  | [part] => part
  | part :: parts => part ++ ',' :: commas parts

/-- Parts in parentheses, with commas between them. -/
def group (parts : List (List Char)) : List Char := '(' :: (commas parts ++ [')'])

/-- The two numbers of a coordinate. -/
def coordText (c : Coord) : List Char :=
  (Number.positional c.x).toList ++ ' ' :: (Number.positional c.y).toList

/-- The text of a path. -/
def pathText (path : Path) : List Char := group (path.map coordText)

/-- The rings of a polygon that are written: an empty outer ring is left out. -/
def rings (shape : Polygon) : List Path :=
  if shape.exterior.isEmpty then shape.interiors else shape.exterior :: shape.interiors

/-- A polygon of a multi-polygon; one without rings is written with an empty ring. -/
def polygonText (shape : Polygon) : List Char :=
  group (if (rings shape).isEmpty then [pathText []] else (rings shape).map pathText)

/-- A type word with its body, or with `EMPTY` when there are no parts. -/
def tagged (word : String) (parts : List (List Char)) : List Char :=
  if parts.isEmpty then word.toList ++ " EMPTY".toList else word.toList ++ group parts

end Wkt

namespace Geometry

open Wkt

mutual

/-- The text of a geometry, character by character. -/
def wktChars : Geometry → List Char
  | point position => tagged "POINT" [coordText position]
  | line start finish => tagged "LINESTRING" [coordText start, coordText finish]
  | lineString path => tagged "LINESTRING" (path.map coordText)
  | polygon shape => tagged "POLYGON" ((rings shape).map pathText)
  | multiPoint positions =>
    tagged "MULTIPOINT" (positions.map fun position => group [coordText position])
  | multiLineString paths => tagged "MULTILINESTRING" (paths.map pathText)
  | multiPolygon shapes => tagged "MULTIPOLYGON" (shapes.map polygonText)
  | collection members => tagged "GEOMETRYCOLLECTION" (memberChars members)
  | rect low high =>
    tagged "POLYGON" [pathText [⟨high.x, low.y⟩, ⟨high.x, high.y⟩, ⟨low.x, high.y⟩,
      ⟨low.x, low.y⟩, ⟨high.x, low.y⟩]]
  | triangle a b c => tagged "POLYGON" [pathText [a, b, c, a]]

/-- The texts of the members of a collection. -/
def memberChars : List Geometry → List (List Char)
  | [] => []
  | member :: rest => member.wktChars :: memberChars rest

end

/-- The text of a geometry. -/
def toWkt (g : Geometry) : String := String.ofList g.wktChars

end Geometry

end GeoFilter
