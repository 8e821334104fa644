import GeoFilter.Number.Binary

set_option autoImplicit false

/-! # Decimal numbers and their text

A decimal is a sign, a natural number of digits and a power of ten. `Decimal.toFloat` is the
nearest double, and `readNumber` reads the usual decimal text: an optional sign, digits with an
optional point (`.5` and `5.` included), an optional exponent, or one of the words `inf`,
`infinity` and `nan` in any ASCII case. There are no separators and no blanks in number text. -/

namespace GeoFilter.Number

/-- The decimal `± digits · 10 ^ exponent`. -/
structure Decimal where
  negative : Bool
  digits : Nat
  exponent : Int
  deriving DecidableEq, Repr

namespace Decimal

/-- The magnitude as a quotient. -/
def quotient (d : Decimal) : Nat × Nat := scaleDown 10 d.digits 1 (-d.exponent)

/-- The code of the magnitude in a binary format. A decimal beyond `10 ^ 400` or below
    `10 ^ (-400)` is infinite or zero in every format here, and is never written out. -/
def encode (f : BinaryFormat) (d : Decimal) : Nat :=
  if d.digits = 0 then 0
  else if 400 < d.exponent then f.infinityCode
  else if d.exponent + d.digits.log2 < -400 then 0
  else f.encode d.quotient.1 d.quotient.2

/-- The double nearest to a decimal. -/
def toFloat (d : Decimal) : Float := ofCode d.negative (d.encode binary64)

/-- The double that holds the single-precision number nearest to a decimal. -/
def toSingle (d : Decimal) : Float :=
  let single := d.encode binary32
  if single = binary32.infinityCode then ofCode d.negative binary64.infinityCode
  else
    let (num, den) := binary32.quotient single
    ofCode d.negative (binary64.encode num den)

/-- An integer as a decimal. -/
def ofInt (n : Int) : Decimal := ⟨n < 0, n.natAbs, 0⟩

end Decimal

/-- The double nearest to an integer. -/
def ofInt (n : Int) : Float := (Decimal.ofInt n).toFloat

/-! ## Reading -/

/-- The value of a decimal digit. -/
def digitValue (c : Char) : Nat := c.toNat - '0'.toNat

/-- The natural number that decimal digits spell. -/
def natOfDigits (cs : List Char) : Nat := cs.foldl (fun n c => 10 * n + digitValue c) 0

/-- Reads an exponent part: nothing, or `e` with an optional sign and at least one digit. -/
def readExponent : List Char → Option Int
  | [] => some 0
  | mark :: cs =>
    if mark ≠ 'e' ∧ mark ≠ 'E' then none
    else
      let (negative, digits) : Bool × List Char :=
        match cs with
        | '-' :: rest => (true, rest)
        | '+' :: rest => (false, rest)
        | _ => (false, cs)
      if digits.isEmpty ∨ ¬ digits.all Char.isDigit then none
      else if negative then some (-(natOfDigits digits : Int))
      else some (natOfDigits digits : Int)

/-- Reads a decimal without its sign. -/
def readMagnitude (negative : Bool) (cs : List Char) : Option Decimal :=
  let whole := cs.takeWhile Char.isDigit
  let afterWhole := cs.dropWhile Char.isDigit
  let (fraction, afterFraction) : List Char × List Char :=
    match afterWhole with
    | '.' :: rest => (rest.takeWhile Char.isDigit, rest.dropWhile Char.isDigit)
    | _ => ([], afterWhole)
  if whole.isEmpty ∧ fraction.isEmpty then none
  else
    (readExponent afterFraction).map fun e =>
      ⟨negative, natOfDigits (whole ++ fraction), e - fraction.length⟩

/-- A number as its text gives it: a decimal, an infinity or NaN. -/
inductive Reading where
  | decimal (d : Decimal)
  | infinite (negative : Bool)
  | nan

/-- The double nearest to a reading. -/
def Reading.toFloat : Reading → Float
  | .decimal d => d.toFloat
  | .infinite negative => ofCode negative binary64.infinityCode
  | .nan => Number.nan

/-- The single-precision number nearest to a reading, as a double. -/
def Reading.toSingle : Reading → Float
  | .decimal d => d.toSingle
  | .infinite negative => ofCode negative binary64.infinityCode
  | .nan => Number.nan

/-- Reads number text without its sign. -/
def readUnsigned (negative : Bool) (cs : List Char) : Option Reading :=
  match readMagnitude negative cs with
  | some d => some (.decimal d)
  | none =>
    let word := String.ofList (cs.map Char.toLower)
    if word = "inf" ∨ word = "infinity" then some (.infinite negative)
    else if word = "nan" then some .nan
    else none

/-- Reads number text with an optional sign; the whole text must be a number. -/
def readNumber : List Char → Option Reading
  | '-' :: cs => readUnsigned true cs
  | '+' :: cs => readUnsigned false cs
  | cs => readUnsigned false cs

/-- Reads number text as the nearest double. -/
def readFloat (cs : List Char) : Option Float := (readNumber cs).map Reading.toFloat

end GeoFilter.Number
