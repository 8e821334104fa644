set_option autoImplicit false

/-! # Binary floating-point formats

A format holds the values `m · 2 ^ e` with a bounded mantissa `m` and a least exponent. Its
magnitudes, from zero over the subnormal and normal numbers to infinity, are numbered in order
by natural numbers, their *codes*; the code is the bit pattern without the sign.

* `BinaryFormat.encode` rounds a quotient of natural numbers to a code, to nearest, a half
  going to the even code.
* `BinaryFormat.decode` gives the mantissa and the exponent of a code.
* `Shape` sorts the doubles into NaN, infinities and signed codes. -/

namespace GeoFilter.Number

/-! ## Rounding quotients -/

/-- The natural number nearest to `num / den`; a half goes to the even neighbour. -/
def roundHalfEven (num den : Nat) : Nat :=
  let low := num / den
  let rest := num % den
  if 2 * rest < den then low
  else if den < 2 * rest then low + 1
  else low + low % 2

/-- The quotient `num / den` divided by `base ^ e`, again as numerator and denominator. -/
def scaleDown (base num den : Nat) (e : Int) : Nat × Nat :=
  (num * Nat.pow base (-e).toNat, den * Nat.pow base e.toNat)

/-- The greatest `e` with `2 ^ e ≤ num / den`, for positive `num` and `den`. -/
def floorLog2 (num den : Nat) : Int :=
  let e : Int := (num.log2 : Int) - (den.log2 : Int)
  let scaled := scaleDown 2 num den e
  if scaled.2 ≤ scaled.1 then e else e - 1

/-! ## Formats -/

/-- A binary format: the bits of a mantissa, the exponent of the smallest step, and the code of
    infinity, which is the first one past the finite magnitudes. -/
structure BinaryFormat where
  precision : Nat
  leastExponent : Int
  infinityCode : Nat

/-- Double precision. -/
def binary64 : BinaryFormat := ⟨53, -1074, 0x7FF0000000000000⟩

/-- Single precision. -/
def binary32 : BinaryFormat := ⟨24, -149, 0x7F800000⟩

namespace BinaryFormat

/-- The number of codes that share one exponent. -/
def binade (f : BinaryFormat) : Nat := Nat.pow 2 (f.precision - 1)

/-- The code of the magnitude nearest to `num / den`. The step between magnitudes near a
    quotient is a power of two that its size fixes; codes count steps, so that rounding up past
    the last mantissa of a binade lands on the first code of the next one. -/
def encode (f : BinaryFormat) (num den : Nat) : Nat :=
  if num = 0 then 0
  else
    let e := max (floorLog2 num den - (f.precision - 1 : Nat)) f.leastExponent
    let scaled := scaleDown 2 num den e
    min ((e - f.leastExponent).toNat * f.binade + roundHalfEven scaled.1 scaled.2) f.infinityCode

/-- The mantissa and the exponent that a finite code stands for. -/
def decode (f : BinaryFormat) (code : Nat) : Nat × Int :=
  let step := code / f.binade
  let rest := code % f.binade
  if step = 0 then (rest, f.leastExponent)
  else (f.binade + rest, f.leastExponent + (step - 1 : Nat))

/-- The magnitude of a finite code as a quotient. -/
def quotient (f : BinaryFormat) (code : Nat) : Nat × Nat :=
  let (mantissa, exponent) := f.decode code
  (mantissa * Nat.pow 2 exponent.toNat, Nat.pow 2 (-exponent).toNat)

end BinaryFormat

/-! ## Doubles -/

/-- The double with the given sign and code. -/
def ofCode (negative : Bool) (code : Nat) : Float :=
  Float.ofBits (UInt64.ofNat (if negative then code + 0x8000000000000000 else code))

/-- The quiet NaN. -/
def nan : Float := ofCode false 0x7FF8000000000000

/-- What a double is: not a number, an infinity, or a sign and the code of a finite magnitude. -/
inductive Shape where
  | nan
  | infinite (negative : Bool)
  | finite (negative : Bool) (code : Nat)
  deriving DecidableEq

/-- The code of a double's magnitude: its bits without the sign. -/
def code (x : Float) : Nat := x.toBits.toNat % 0x8000000000000000

/-- The sign bit of a double. -/
def isNegative (x : Float) : Bool := 0x8000000000000000 ≤ x.toBits.toNat

/-- Sorts a double by its bits. -/
def shape (x : Float) : Shape :=
  if code x < binary64.infinityCode then .finite (isNegative x) (code x)
  else if code x = binary64.infinityCode then .infinite (isNegative x)
  else .nan

end GeoFilter.Number
