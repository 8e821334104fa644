set_option autoImplicit false

/-! # TOML documents

A document is a table of values. While it is read, every table remembers how it came to be: by
a header of its own, on the way to the header of another table, by a dotted key, or as a value
between braces. What may still be added to a table depends on that.

* `Toml.define` puts a value under a dotted key.
* `Toml.openTable` and `Toml.openElement` do what headers ask for.
* `Toml.within` changes the table that the last header opened. -/

namespace GeoFilter

/-- How a table came to be. -/
inductive TableOrigin where
  | implied
  | header
  | dotted
  | inline
  deriving DecidableEq

/-- A TOML value. The elements of an array of tables are kept with the last one first. -/
inductive Toml where
  | string (s : String)
  | integer (n : Int)
  | float
  | boolean (b : Bool)
  | dateTime
  | array (items : List Toml)
  | table (origin : TableOrigin) (entries : List (String × Toml))
  | tables (elements : List (List (String × Toml)))

namespace Toml

/-- The entries of a table. -/
abbrev Entries := List (String × Toml)

/-- The value under a key. -/
def find? (key : String) (entries : Entries) : Option Toml :=
  (entries.find? fun entry => entry.1 = key).map Prod.snd

/-- Puts a value under a key, in place of one that is there. -/
def put (key : String) (value : Toml) : Entries → Entries
  | [] => [(key, value)]
  | entry :: rest =>
    if entry.1 = key then (key, value) :: rest else entry :: put key value rest

/-- Puts a value under a key that must be new. -/
def putNew (key : String) (value : Toml) (entries : Entries) : Option Entries :=
  if (find? key entries).isSome then none else some (entries ++ [(key, value)])

/-- Puts a value under a dotted key. The tables on the way must be new, or made by dotted keys
    as well. -/
def define (value : Toml) : (path : List String) → Entries → Option Entries
  | [], _ => none
  | [key], entries => putNew key value entries
  | key :: path, entries =>
    match find? key entries with
    | none => (define value path []).map fun inner => entries ++ [(key, .table .dotted inner)]
    | some (.table .dotted inner) =>
      (define value path inner).map fun inner => put key (.table .dotted inner) entries
    | some _ => none

/-- Changes the table that a path of header keys leads to. Tables that are missing on the way
    are implied, and an array of tables stands for its last element. -/
def within (change : Entries → Option Entries) : (path : List String) → Entries → Option Entries
  | [], entries => change entries
  | key :: path, entries =>
    match find? key entries with
    | none => (within change path []).map fun inner => entries ++ [(key, .table .implied inner)]
    | some (.table .inline _) => none
    | some (.table origin inner) =>
      (within change path inner).map fun inner => put key (.table origin inner) entries
    | some (.tables (last :: earlier)) =>
      (within change path last).map fun last => put key (.tables (last :: earlier)) entries
    | some _ => none

/-- Opens a table by its header: it must be new, or only implied so far. -/
def openTable (key : String) (entries : Entries) : Option Entries :=
  match find? key entries with
  | none => some (entries ++ [(key, .table .header [])])
  | some (.table .implied inner) => some (put key (.table .header inner) entries)
  | some _ => none

/-- Opens another element of an array of tables by its header. -/
def openElement (key : String) (entries : Entries) : Option Entries :=
  match find? key entries with
  | none => some (entries ++ [(key, .tables [[]])])
  | some (.tables elements) => some (put key (.tables ([] :: elements)) entries)
  | some _ => none

end Toml

end GeoFilter
