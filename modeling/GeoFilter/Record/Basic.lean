import GeoFilter.Dictionary
import GeoFilter.Record.View

set_option autoImplicit false

/-! # Records

A record has attributes, and may have an identifier and the name of its default geometry. Where
a name is given, the default geometry is the geometry under that name, if there is one there;
where none is given, it is the first geometry in the order of names. A plain map from names to
values can be filtered like a record, too. -/

namespace GeoFilter

/-- A record. -/
structure Record where
  id : Option String
  attributes : Dictionary Value
  geometryName : Option String

namespace Record

/-- The record that holds nothing. -/
def empty : Record := ⟨none, .empty, none⟩

/-- The record with the attributes of a list of pairs; of two with one name the later stays. -/
def ofList (pairs : List (String × Value)) : Record := ⟨none, .ofList pairs, none⟩

/-- Gives an attribute a value. -/
def insert (r : Record) (name : String) (value : Value) : Record :=
  { r with attributes := r.attributes.insert name value }

/-- Takes an attribute away. -/
def erase (r : Record) (name : String) : Record :=
  { r with attributes := r.attributes.erase name }

/-- Gives a record an identifier. -/
def withId (r : Record) (id : String) : Record := { r with id := some id }

/-- Names the attribute that holds the default geometry. -/
def withGeometryName (r : Record) (name : String) : Record :=
  { r with geometryName := some name }

/-- The value under a name; absent where there is none. -/
def lookup (r : Record) (name : String) : Value := (r.attributes.get? name).getD .absent

/-- The geometry that a value is. -/
def geometryOf? : Value → Option Geometry
  | .geometry g => some g
  | _ => none

/-- The first geometry in the order of names. -/
def firstGeometry (attributes : Dictionary Value) : Option Geometry :=
  attributes.values.findSome? geometryOf?

/-- The default geometry. -/
def geometry (r : Record) : Option Geometry :=
  match r.geometryName with
  | some name => (r.attributes.get? name).bind geometryOf?
  | none => firstGeometry r.attributes

/-- What filters see of a record. -/
def view (r : Record) : RecordView := ⟨r.lookup, r.geometry, r.id⟩

end Record

/-- What filters see of a plain map of attributes. It has no identifier, and its default geometry is
    the first one in the order of names. -/
def Dictionary.view (attributes : Dictionary Value) : RecordView :=
  ⟨fun name => (attributes.get? name).getD .absent, Record.firstGeometry attributes, none⟩

end GeoFilter
