import GeoFilter.Value.Basic

set_option autoImplicit false

/-! # What can be asked of a record

Filters see a record through three questions only, so that any store of attributes can be
filtered. -/

namespace GeoFilter

/-- The answers of a record: the value under a name, where absent means that there is none, its
    default geometry, and its identifier. -/
structure RecordView where
  lookup : String → Value
  defaultGeometry : Option Geometry
  id : Option String

end GeoFilter
