import GeoFilter.Text.Printable

set_option autoImplicit false

/-! # Quoted text for diagnostics

`quoted` writes text between double quotes so that every character can be told apart: quotes,
backslashes and the usual controls have two-character escapes, and all that cannot be printed is
written by its code point in hexadecimal. -/

namespace GeoFilter.Text

/-- One character of quoted text. -/
def escapeChar (c : Char) : List Char :=
  if c = '"' then ['\\', '"']
  else if c = '\\' then ['\\', '\\']
  else if c = '\n' then ['\\', 'n']
  else if c = '\r' then ['\\', 'r']
  else if c = '\t' then ['\\', 't']
  else if c.toNat = 0 then ['\\', '0']
  else if isPrintable c then [c]
  else '\\' :: 'u' :: '\x7b' :: (Nat.toDigits 16 c.toNat ++ ['\x7d'])

/-- Text between double quotes, with escapes. -/
def quoted (s : String) : String :=
  String.ofList ('"' :: (s.toList.flatMap escapeChar ++ ['"']))

/-- A path between double quotes, with escapes; apostrophes are escaped too. -/
def quotedPath (path : String) : String :=
  let escape (c : Char) := if c = '\x27' then ['\\', c] else escapeChar c
  String.ofList ('"' :: (path.toList.flatMap escape ++ ['"']))

end GeoFilter.Text
