import GeoFilter.Text.Lines

set_option autoImplicit false

/-! # History

The history of the shell is the list of lines that were entered, the latest last. A line equal
to the one before it is not added, and the oldest line goes when there are too many.

A history is kept in a file with a first line that names the form, and one line for each entry,
in which line feeds and backslashes are escaped. A file without that first line holds entries as
they are. -/

namespace GeoFilter

/-- Entries, the latest last, and how many there may be. -/
structure History where
  limit : Nat
  entries : List String
  deriving DecidableEq

namespace History

/-- The history without entries. -/
def empty (limit : Nat) : History := ⟨limit, []⟩

/-- Whether a line would be added. -/
def admits (h : History) (line : String) : Bool :=
  h.limit != 0 && line != "" && h.entries.getLast? != some line

/-- Adds a line, unless it is empty or equal to the latest one. -/
def add (h : History) (line : String) : History :=
  if h.admits line then
    { h with entries := h.entries.drop (h.entries.length + 1 - h.limit) ++ [line] }
  else h

/-! ## The file -/

/-- The first line of a file. -/
def mark : String := "#V2"

/-- An entry on one line. -/
def escape (cs : List Char) : List Char :=
  cs.flatMap fun c => if c = '\n' then ['\\', 'n'] else if c = '\\' then ['\\', '\\'] else [c]

/-- The entry that a line holds, if its escapes are in order. -/
def unescape? : List Char → Option (List Char)
  | [] => some []
  | '\\' :: 'n' :: cs => (unescape? cs).map ('\n' :: ·)
  | '\\' :: '\\' :: cs => (unescape? cs).map ('\\' :: ·)
  | c :: cs => if c = '\\' then none else (unescape? cs).map (c :: ·)

/-- Every entry can be told from the line that it is written on. -/
theorem unescape?_escape (cs : List Char) : unescape? (escape cs) = some cs := by
  induction cs with
  | nil => rfl
  | cons c cs ih =>
    simp only [escape, List.flatMap_cons] at ih ⊢
    by_cases hn : c = '\n'
    · subst hn
      simp [unescape?, ih]
    · by_cases hb : c = '\\'
      · subst hb
        simp [unescape?, ih]
      · rw [if_neg hn, if_neg hb, List.singleton_append, unescape?, if_neg hb, ih]
        · rfl
        all_goals simp_all

/-- The entry that a line holds; a line that is not in order is taken as it is. -/
def entryOf (line : String) : String :=
  match unescape? line.toList with
  | some cs => String.ofList cs
  | none => line

/-- Adds the entries of a file. -/
def load (h : History) (content : String) : History :=
  match Text.lines content with
  | [] => h
  | first :: rest =>
    if first = mark then (rest.map entryOf).foldl add h
    else (first :: rest).foldl add h

/-- The content of a file with all entries. -/
def save (h : History) : String :=
  String.join ((mark :: h.entries.map fun e => String.ofList (escape e.toList)).map (· ++ "\n"))

end History

end GeoFilter
