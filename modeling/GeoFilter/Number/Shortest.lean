import GeoFilter.Number.Decimal

set_option autoImplicit false

/-! # The shortest decimal that reads back

`shortest` writes a finite magnitude with the fewest significant digits that still read back as
the same double, choosing the nearest such decimal. For each number of digits only the two
neighbours of the magnitude on that decimal grid are tried, in exact arithmetic, and a candidate
counts only when `Decimal.encode` sends it to the code it came from. -/

namespace GeoFilter.Number

/-- Which neighbour is taken when a magnitude lies exactly between two that read back. -/
inductive Tie where
  | up
  | even
  deriving DecidableEq

/-- The exponent of the first significant decimal digit of `num / den`. -/
def floorLog10 (num den : Nat) : Int :=
  let guess := floorLog2 num den * 30103 / 100000
  let atGuess := scaleDown 10 num den guess
  if atGuess.1 < atGuess.2 then guess - 1
  else if 10 * atGuess.2 ≤ atGuess.1 then guess + 1
  else guess

/-- Whether `digits · 10 ^ exponent` reads back as the double with this code. -/
def readsBack (code digits : Nat) (exponent : Int) : Bool :=
  Decimal.encode binary64 ⟨false, digits, exponent⟩ = code

/-- The number of grid steps `10 ^ exponent`, among the two nearest to `num / den`, that reads
    back as the double with this code, if one does. -/
def gridNeighbour (tie : Tie) (code num den : Nat) (exponent : Int) : Option Nat :=
  let scaled := scaleDown 10 num den exponent
  let low := scaled.1 / scaled.2
  let rest := scaled.1 % scaled.2
  match readsBack code low exponent, readsBack code (low + 1) exponent with
  | false, false => none
  | true, false => some low
  | false, true => some (low + 1)
  | true, true =>
    if 2 * rest < scaled.2 then some low
    else if scaled.2 < 2 * rest then some (low + 1)
    else match tie with
      | .up => some (low + 1)
      | .even => some (low + low % 2)

/-- A magnitude written out in full: `m · 2 ^ e` is `m · 5 ^ (-e) · 10 ^ e` for negative `e`. -/
def exactDecimal (code : Nat) : Nat × Int :=
  let (mantissa, exponent) := binary64.decode code
  if exponent < 0 then (mantissa * Nat.pow 5 (-exponent).toNat, exponent)
  else (mantissa * Nat.pow 2 exponent.toNat, 0)

/-- The digits and the decimal exponent of the shortest decimal that reads back as the double
    with this code. Seventeen digits always suffice; the full expansion closes the search. -/
def shortest (tie : Tie) (code : Nat) : Nat × Int :=
  if code = 0 then (0, 0)
  else
    let (num, den) := binary64.quotient code
    let first := floorLog10 num den
    let hit := (List.range 17).findSome? fun (i : Nat) =>
      let exponent := first - (i : Int)
      (gridNeighbour tie code num den exponent).map fun digits =>
        if digits = Nat.pow 10 (i + 1) then (1, exponent + (i + 1 : Nat)) else (digits, exponent)
    hit.getD (exactDecimal code)

end GeoFilter.Number
