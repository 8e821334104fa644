import GeoFilter.Geometry.Basic

set_option autoImplicit false

/-! # Values

What a record holds under a name, and what an expression yields. `absent` and `null` are two
ways of holding nothing: an absent value is the answer for a name that the record does not
carry, a null value is carried and empty. -/

namespace GeoFilter

/-- A value. -/
inductive Value where
  | absent
  | null
  | number (x : Float)
  | text (s : String)
  | bool (b : Bool)
  | geometry (g : Geometry)

namespace Value

instance : Inhabited Value := ⟨absent⟩

/-- Whether a value is absent. -/
def isAbsent : Value → Bool
  | absent => true
  | _ => false

/-- Whether a value is null. -/
def isNull : Value → Bool
  | null => true
  | _ => false

/-- Whether a value holds nothing. -/
def isMissing (v : Value) : Bool := v.isAbsent || v.isNull

/-- The word for a value's kind. -/
def kind : Value → String
  | absent => "Absent"
  | null => "Null"
  | number _ => "Number"
  | text _ => "Text"
  | bool _ => "Bool"
  | geometry _ => "Geometry"

/-- Structural equality, with the equality of numbers on numbers and coordinates. -/
def same : Value → Value → Bool
  | absent, absent => true
  | null, null => true
  | number x, number y => x == y
  | text s, text t => s == t
  | bool b, bool c => b == c
  | geometry g, geometry h => g.same h
  | _, _ => false

/-- An optional value that is there but empty is null. -/
def ofOption : Option Value → Value
  | some v => v
  | none => null

end Value

end GeoFilter
