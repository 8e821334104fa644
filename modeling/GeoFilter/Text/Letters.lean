set_option autoImplicit false

/-! # Letter case in ASCII

Keywords, function names and geometry type words are compared without regard to the case of
ASCII letters; all other characters must agree exactly. -/

namespace GeoFilter.Text

/-- The text with its ASCII letters in upper case. -/
def upper (s : String) : String := String.ofList (s.toList.map Char.toUpper)

/-- Whether two texts agree up to the case of ASCII letters. -/
def sameLetters (a b : String) : Bool :=
  a.toList.map Char.toUpper == b.toList.map Char.toUpper

end GeoFilter.Text
