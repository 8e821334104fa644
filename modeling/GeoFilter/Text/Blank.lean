set_option autoImplicit false

/-! # Blank characters and trimming

The Unicode property White_Space, and text with the blanks at both ends taken off. -/

namespace GeoFilter.Text

/-- Whether a character has the Unicode property White_Space. -/
def isBlank (c : Char) : Bool :=
  let n := c.toNat
  (9 ≤ n && n ≤ 13) || n = 32 || n = 133 || n = 160 || n = 5760 || (8192 ≤ n && n ≤ 8202) ||
    n = 8232 || n = 8233 || n = 8239 || n = 8287 || n = 12288

/-- Takes the blanks off both ends. -/
def trimmed (cs : List Char) : List Char :=
  ((cs.dropWhile isBlank).reverse.dropWhile isBlank).reverse

/-- Takes the blanks off both ends of a text. -/
def trim (s : String) : String := String.ofList (trimmed s.toList)

/-- Whether a text holds nothing but blanks. -/
def isAllBlank (s : String) : Bool := s.toList.all isBlank

/-- The words of a text: its longest runs without a blank. -/
def words (cs : List Char) : List String :=
  ((cs.splitBy fun a b => isBlank a == isBlank b).filter fun run => !run.all isBlank).map
    String.ofList

end GeoFilter.Text
