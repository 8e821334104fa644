import GeoFilter.Number.Shortest

set_option autoImplicit false

/-! # Positional number text

`positional` writes a double in its shortest digits and never with an exponent: whole numbers
without a point, fractions with a leading zero, `NaN`, `inf` and `-inf` for the rest. It keeps
the sign of zero; `canonical` does not, so that equal finite numbers have one text. -/

namespace GeoFilter.Number

/-- Digits placed around the decimal point: `digits · 10 ^ exponent` without an exponent. -/
def layOut (digits : List Char) (exponent : Int) : List Char :=
  let places := (-exponent).toNat
  if 0 ≤ exponent then digits ++ List.replicate exponent.toNat '0'
  else if places < digits.length then
    digits.take (digits.length - places) ++ '.' :: digits.drop (digits.length - places)
  else '0' :: '.' :: (List.replicate (places - digits.length) '0' ++ digits)

/-- The text of a finite magnitude. -/
def magnitudeText (code : Nat) : List Char :=
  let (digits, exponent) := shortest .up code
  layOut (Nat.toDigits 10 digits) exponent

/-- The text of a double with the sign of zero kept. -/
def positional (x : Float) : String :=
  match shape x with
  | .nan => "NaN"
  | .infinite negative => if negative then "-inf" else "inf"
  | .finite negative code =>
    String.ofList (if negative then '-' :: magnitudeText code else magnitudeText code)

/-- The text of a double, where both zeros are `0`. -/
def canonical (x : Float) : String :=
  match shape x with
  | .finite _ 0 => "0"
  | _ => positional x

end GeoFilter.Number
