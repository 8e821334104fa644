import GeoFilter.Json.Basic
import GeoFilter.Number.Shortest

set_option autoImplicit false

/-! # Numbers in JSON text

Reading gathers the digits of a number in a 64-bit significand for as long as they fit, drops
the others, and scales the significand once by a power of ten; it does not round to the nearest
double in all cases. A number that overflows a double is refused.

Writing uses the shortest digits that read back, with a fraction always, and an exponent for
numbers from `10 ^ 16` on and below `10 ^ (-5)`. -/

namespace GeoFilter.Json

/-! ## Reading -/

/-- The parts of a number as it is written: its sign, the digits before the point, those after
    it if there is a point, and the sign and the digits of the exponent if there is one. -/
structure NumberParts where
  negative : Bool
  whole : List Char
  fraction : Option (List Char)
  exponent : Option (Bool × List Char)

/-- The greatest 64-bit number. -/
def maxSignificand : Nat := 0xFFFFFFFFFFFFFFFF

/-- Appends digits to a significand for as long as it fits into 64 bits; the digits that do not
    fit are left. -/
def gather (significand : Nat) : List Char → Nat × List Char
  | [] => (significand, [])
  | c :: cs =>
    let longer := 10 * significand + Number.digitValue c
    if maxSignificand < longer then (significand, c :: cs) else gather longer cs

/-- A power of ten as a double. -/
def powerOfTen (n : Nat) : Float := (Number.Decimal.mk false 1 n).toFloat

/-- Scales a number by a power of ten: by one multiplication or division where the power is a
    double, and otherwise down by `10 ^ 308` first, which need not be done more than `steps`
    times before nothing is left. -/
def scale (x : Float) (exponent : Int) : (steps : Nat) → Option Float
  | 0 => some x
  | steps + 1 =>
    if exponent.natAbs ≤ 308 then
      if 0 ≤ exponent then
        let y := x * powerOfTen exponent.natAbs
        if y.isInf then none else some y
      else some (x / powerOfTen exponent.natAbs)
    else if x == 0 then some x
    else if 0 ≤ exponent then none
    else scale (x / powerOfTen 308) (exponent + 308) steps

/-- The double with a sign, a significand and a power of ten. -/
def assemble (negative : Bool) (significand : Nat) (exponent : Int) : Option Float :=
  (scale (Number.ofInt significand) exponent 8).map fun x => if negative then -x else x

/-- The greatest exponent that is added up; a greater one stands for all of them. -/
def maxExponent : Nat := 0x7FFFFFFF

/-- The double that a number with a fraction, an exponent or too many digits is read as. -/
def NumberParts.toFloat? (parts : NumberParts) : Option Float :=
  let (whole, dropped) := gather 0 parts.whole
  let (significand, left) := gather whole (parts.fraction.getD [])
  let places := (parts.fraction.getD []).length - left.length
  let before : Int := (dropped.length : Int) - (places : Int)
  match parts.exponent with
  | none => assemble parts.negative significand before
  | some (negative, digits) =>
    let e := Number.natOfDigits digits
    if maxExponent < e then
      if significand ≠ 0 ∧ ¬ negative then none else some (Number.ofCode parts.negative 0)
    else
      let limit : Int := maxExponent
      let exponent := if negative then max (before - e) (-limit - 1) else min (before + e) limit
      assemble parts.negative significand exponent

/-- Reads a number: a whole number that fits into 64 bits as it is, minus zero and everything
    else as a double. -/
def NumberParts.toJson? (parts : NumberParts) : Option Json :=
  let n := Number.natOfDigits parts.whole
  if parts.fraction.isNone ∧ parts.exponent.isNone ∧ n ≤ maxSignificand then
    if ¬ parts.negative then some (.integer n)
    else if n ≠ 0 ∧ n ≤ 0x8000000000000000 then some (.integer (-n))
    else some (.float (-(Number.ofInt n)))
  else parts.toFloat?.map .float

/-! ## Writing -/

/-- The text of a finite magnitude, from its digits and their power of ten. -/
def layOutNumber (digits : List Char) (exponent : Int) : List Char :=
  -- the position of the decimal point, counted from before the first digit
  let point := (digits.length : Int) + exponent
  if 0 ≤ exponent ∧ point ≤ 16 then
    digits ++ List.replicate exponent.toNat '0' ++ ['.', '0']
  else if 0 < point ∧ point ≤ 16 then
    digits.take point.toNat ++ '.' :: digits.drop point.toNat
  else if -5 < point ∧ point ≤ 0 then
    '0' :: '.' :: (List.replicate (-point).toNat '0' ++ digits)
  else
    let mantissa :=
      match digits with
      | d :: d' :: ds => d :: '.' :: d' :: ds
      | ds => ds
    let e := point - 1
    mantissa ++ 'e' :: (if e < 0 then '-' else '+') :: Nat.toDigits 10 e.natAbs

/-- The text of a double; what is not finite is written as null. -/
def floatChars (x : Float) : List Char :=
  match Number.shape x with
  | .finite negative code =>
    let (digits, exponent) := Number.shortest .even code
    let text := layOutNumber (Nat.toDigits 10 digits) exponent
    if negative then '-' :: text else text
  | _ => "null".toList

end GeoFilter.Json
