import GeoFilter.Dictionary
import GeoFilter.Number.Decimal

set_option autoImplicit false

/-! # JSON values

A JSON value keeps whole numbers apart from other numbers, and the members of an object in the
order in which they were written, repeated names included. `Json.ordered` sorts the members of
every object by name and keeps the last of those with one name. -/

namespace GeoFilter

/-- A JSON value. -/
inductive Json where
  | null
  | bool (b : Bool)
  | integer (n : Int)
  | float (x : Float)
  | string (s : String)
  | array (items : List Json)
  | object (members : List (String × Json))

namespace Json

/-- The number that a value is, as a double. -/
def number? : Json → Option Float
  | integer n => some (Number.ofInt n)
  | float x => some x
  | _ => none

mutual

/-- The value with the members of every object in the order of their names, each name once. -/
def ordered : Json → Json
  | array items => array (orderedItems items)
  | object members => object (orderedMembers members [])
  | json => json

/-- The items of an array, each one ordered. -/
def orderedItems : List Json → List Json
  | [] => []
  | item :: items => item.ordered :: orderedItems items

/-- Puts members, each one ordered, into those that are there. -/
def orderedMembers : List (String × Json) → List (String × Json) → List (String × Json)
  | [], done => done
  | (name, json) :: members, done =>
    orderedMembers members (Entries.put name json.ordered done)

end

end Json

end GeoFilter
