import GeoFilter.Json.Number

set_option autoImplicit false

/-! # Writing JSON text

Values are written without spaces. In strings only what must be escaped is: quotes, backslashes
and control characters, the usual ones by two characters and the others by their code. -/

namespace GeoFilter.Json

/-- One character of a string. -/
def charText (c : Char) : List Char :=
  if c = '"' then ['\\', '"']
  else if c = '\\' then ['\\', '\\']
  else if c = '\x08' then ['\\', 'b']
  else if c = '\x0c' then ['\\', 'f']
  else if c = '\n' then ['\\', 'n']
  else if c = '\r' then ['\\', 'r']
  else if c = '\t' then ['\\', 't']
  else if c.toNat < 32 then
    let digits := Nat.toDigits 16 c.toNat
    '\\' :: 'u' :: (List.replicate (4 - digits.length) '0' ++ digits)
  else [c]

/-- A string between quotes. -/
def stringChars (s : String) : List Char := '"' :: (s.toList.flatMap charText ++ ['"'])

/-- The text of a whole number. -/
def integerChars (n : Int) : List Char :=
  if n < 0 then '-' :: Nat.toDigits 10 n.natAbs else Nat.toDigits 10 n.natAbs

/-- Puts commas between parts. -/
def commas : List (List Char) → List Char
  | [] => []
  | [part] => part
  | part :: parts => part ++ ',' :: commas parts

mutual

/-- The text of a value, character by character. -/
def chars : Json → List Char
  | null => "null".toList
  | bool b => if b then "true".toList else "false".toList
  | integer n => integerChars n
  | float x => floatChars x
  | string s => stringChars s
  | array items => '[' :: (commas (itemChars items) ++ [']'])
  | object members => '\x7b' :: (commas (memberChars members) ++ ['\x7d'])

/-- The texts of the items of an array. -/
def itemChars : List Json → List (List Char)
  | [] => []
  | item :: items => item.chars :: itemChars items

/-- The texts of the members of an object. -/
def memberChars : List (String × Json) → List (List Char)
  | [] => []
  | (name, json) :: members => (stringChars name ++ ':' :: json.chars) :: memberChars members

end

/-- The text of a value. -/
def print (json : Json) : String := String.ofList json.chars

end GeoFilter.Json
