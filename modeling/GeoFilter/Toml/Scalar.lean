import GeoFilter.Number.Decimal
import GeoFilter.Toml.Basic

set_option autoImplicit false

/-! # Numbers, truth values and dates in TOML

Digits may have single underscores between them. Whole numbers are decimal without needless
zeros, or hexadecimal, octal or binary, and fit into 64 bits. Dates and times are checked but
not kept. -/

namespace GeoFilter.Toml

/-- Takes the underscores out of digits; each of them stands between two digits. -/
def withoutUnderscores (isDigit : Char → Bool) : List Char → Option (List Char)
  | [] => none
  | [c] => if isDigit c then some [c] else none
  | c :: '_' :: d :: rest =>
    if isDigit c then (withoutUnderscores isDigit (d :: rest)).map (c :: ·) else none
  | c :: rest => if isDigit c then (withoutUnderscores isDigit rest).map (c :: ·) else none

/-- The value of a digit in any base up to sixteen. -/
def digitOf (c : Char) : Nat :=
  if c.isDigit then c.toNat - 48 else c.toLower.toNat - 87

/-- The number that digits spell in a base. -/
def natInBase (base : Nat) (cs : List Char) : Nat :=
  cs.foldl (fun n c => base * n + digitOf c) 0

/-- Whether a whole number fits into 64 bits, with or without a sign. -/
def fits (n : Int) : Bool := -0x8000000000000000 ≤ n && n < 0x10000000000000000

/-- Reads the digits of a whole number in a base. -/
def baseInteger? (base : Nat) (isDigit : Char → Bool) (cs : List Char) : Option Toml := do
  let digits ← withoutUnderscores isDigit cs
  let n : Int := natInBase base digits
  if fits n then some (.integer n) else none

/-- The digits of base 16. -/
def isHexDigit (c : Char) : Bool := c.isDigit || ('a' ≤ c && c ≤ 'f') || ('A' ≤ c && c ≤ 'F')

/-- The digits of base 8. -/
def isOctalDigit (c : Char) : Bool := '0' ≤ c && c ≤ '7'

/-- The digits of base 2. -/
def isBinaryDigit (c : Char) : Bool := c == '0' || c == '1'

/-- Takes a sign off the front. -/
def unsigned : List Char → Bool × List Char
  | '-' :: cs => (true, cs)
  | '+' :: cs => (false, cs)
  | cs => (false, cs)

/-- The digits of a decimal whole number, which does not start with a needless zero. -/
def decimalDigits? (cs : List Char) : Option (List Char) := do
  let digits ← withoutUnderscores Char.isDigit cs
  match digits with
  | '0' :: _ :: _ => none
  | _ => some digits

/-- The whole number that a text is. -/
def integer? (cs : List Char) : Option Toml :=
  match cs with
  | '0' :: 'x' :: digits => baseInteger? 16 isHexDigit digits
  | '0' :: 'o' :: digits => baseInteger? 8 isOctalDigit digits
  | '0' :: 'b' :: digits => baseInteger? 2 isBinaryDigit digits
  | _ => do
    let (negative, digits) := unsigned cs
    let digits ← decimalDigits? digits
    let n : Int := Number.natOfDigits digits
    let n := if negative then -n else n
    if fits n then some (.integer n) else none

/-- Whether characters are the digits of a fraction or an exponent. -/
def areDigits (cs : List Char) : Bool := (withoutUnderscores Char.isDigit cs).isSome

/-- Whether characters are an exponent, its letter left out. -/
def isExponent (cs : List Char) : Bool := areDigits (unsigned cs).2

/-- The letters before an exponent. -/
def isExponentMark (c : Char) : Bool := c == 'e' || c == 'E'

/-- The float that a text is. -/
def float? (cs : List Char) : Option Toml :=
  let (_, rest) := unsigned cs
  if rest = "inf".toList ∨ rest = "nan".toList then some .float
  else do
    let whole := rest.takeWhile fun c => c != '.' && !isExponentMark c
    let _ ← decimalDigits? whole
    match rest.drop whole.length with
    | '.' :: after =>
      let fraction := after.takeWhile fun c => !isExponentMark c
      if ¬ areDigits fraction then none
      else
        match after.drop fraction.length with
        | [] => some .float
        | _ :: exponent => if isExponent exponent then some .float else none
    | _ :: exponent => if isExponent exponent then some .float else none
    | [] => none

/-! ## Dates and times -/

/-- Takes a number of exactly `count` digits off the front. -/
def fixedDigits? (count : Nat) (cs : List Char) : Option (Nat × List Char) :=
  let digits := cs.take count
  if digits.length = count ∧ digits.all Char.isDigit then
    some (Number.natOfDigits digits, cs.drop count)
  else none

/-- Takes a character off the front. -/
def expectChar (c : Char) : List Char → Option (List Char)
  | d :: cs => if c = d then some cs else none
  | [] => none

/-- The number of days of a month. -/
def daysIn (year month : Nat) : Nat :=
  if month = 2 then
    if year % 4 = 0 ∧ (year % 100 ≠ 0 ∨ year % 400 = 0) then 29 else 28
  else if month = 4 ∨ month = 6 ∨ month = 9 ∨ month = 11 then 30
  else 31

/-- Takes a date off the front. -/
def date? (cs : List Char) : Option (List Char) := do
  let (year, cs) ← fixedDigits? 4 cs
  let (month, cs) ← fixedDigits? 2 (← expectChar '-' cs)
  let (day, cs) ← fixedDigits? 2 (← expectChar '-' cs)
  if 1 ≤ month ∧ month ≤ 12 ∧ 1 ≤ day ∧ day ≤ daysIn year month then some cs else none

/-- Takes seconds with their fraction off the front, if there are any. -/
def seconds? (cs : List Char) : Option (List Char) :=
  match cs with
  | ':' :: rest => do
    let (second, after) ← fixedDigits? 2 rest
    if 60 < second then none
    else
      match after with
      | '.' :: fraction =>
        if (fraction.takeWhile Char.isDigit).isEmpty then none
        else some (fraction.dropWhile Char.isDigit)
      | _ => some after
  | _ => some cs

/-- Takes a time off the front. -/
def time? (cs : List Char) : Option (List Char) := do
  let (hour, cs) ← fixedDigits? 2 cs
  let (minute, cs) ← fixedDigits? 2 (← expectChar ':' cs)
  if hour ≤ 23 ∧ minute ≤ 59 then seconds? cs else none

/-- Whether characters are an offset from universal time. -/
def isOffset (cs : List Char) : Bool :=
  let check : Option (List Char) := do
    match cs with
    | ['Z'] | ['z'] => some []
    | sign :: rest =>
      if sign ≠ '+' ∧ sign ≠ '-' then none
      else
        let (hour, rest) ← fixedDigits? 2 rest
        let (minute, rest) ← fixedDigits? 2 (← expectChar ':' rest)
        if hour ≤ 23 ∧ minute ≤ 59 then some rest else none
    | [] => none
  check == some []

/-- Whether characters are a date, a time, or both with or without an offset. -/
def isDateTime (cs : List Char) : Bool :=
  match date? cs with
  | some [] => true
  | some (mark :: rest) =>
    (mark == 'T' || mark == 't' || mark == ' ') &&
      match time? rest with
      | some [] => true
      | some offset => isOffset offset
      | none => false
  | none => time? cs == some []

/-- Reads a value that is written in one run of characters. -/
def scalar? (cs : List Char) : Option Toml :=
  if cs = "true".toList then some (.boolean true)
  else if cs = "false".toList then some (.boolean false)
  else if isDateTime cs then some .dateTime
  else integer? cs <|> float? cs

end GeoFilter.Toml
