set_option autoImplicit false

/-! # Lines

Text is cut after each line feed; the line feed, and one carriage return before it, are not part
of the line. What follows the last line feed is a line only if there is something. -/

namespace GeoFilter.Text

/-- Takes one carriage return off the end. -/
def withoutReturn (cs : List Char) : List Char :=
  if cs.getLast? = some '\r' then cs.dropLast else cs

/-- The lines of a text that goes on with a line of which the characters so far are `line`, in
    reverse. -/
def linesAfter (line : List Char) : List Char → List (List Char)
  | [] => if line.isEmpty then [] else [line.reverse]
  | c :: cs =>
    if c = '\n' then withoutReturn line.reverse :: linesAfter [] cs
    else linesAfter (c :: line) cs

/-- The lines of a text. -/
def lines (s : String) : List String := (linesAfter [] s.toList).map String.ofList

end GeoFilter.Text
