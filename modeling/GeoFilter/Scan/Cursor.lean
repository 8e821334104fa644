import GeoFilter.Filter.Accept

set_option autoImplicit false

/-! # Cursors

A cursor goes through a source of records and stops at each one that its filter accepts. It
looks at no record before it has to, and counts the records that it has looked at and those that
it has stopped at. -/

namespace GeoFilter

/-- A cursor over records of a type, of which `view` shows what filters see. -/
structure Cursor (α : Type) where
  filter : Filter
  view : α → RecordView
  pending : List α
  /-- The number of records that it has looked at. A source is taken to have fewer than `2 ^ 64`
      records, so that a count of 64 bits does not run over. -/
  scanned : Nat
  /-- The number of records that it has stopped at, fewer than `2 ^ 64` for the same reason. -/
  matched : Nat

namespace Cursor

variable {α : Type}

/-- A cursor before the first record. -/
def start (filter : Filter) (view : α → RecordView) (records : List α) : Cursor α :=
  ⟨filter, view, records, 0, 0⟩

/-- Whether the filter accepts a record. -/
def accepts [Relate] (c : Cursor α) (record : α) : Bool := c.filter.accepts (c.view record)

/-- The next record that the filter accepts, with the records after it; `skipped` counts the
    records before it. -/
def advance (accepts : α → Bool) (skipped : Nat) : List α → Option α × List α × Nat
  | [] => (none, [], skipped)
  | record :: rest =>
    if accepts record then (some record, rest, skipped + 1)
    else advance accepts (skipped + 1) rest

/-- Goes to the next record that the filter accepts. -/
def next [Relate] (c : Cursor α) : Option α × Cursor α :=
  match advance c.accepts 0 c.pending with
  | (some record, rest, count) =>
    (some record,
      { c with pending := rest, scanned := c.scanned + count, matched := c.matched + 1 })
  | (none, rest, count) => (none, { c with pending := rest, scanned := c.scanned + count })

/-- Goes through to the end: all further records that the filter accepts. -/
def drain [Relate] (c : Cursor α) : List α × Cursor α :=
  let found := c.pending.filter c.accepts
  (found,
    { c with
      pending := []
      scanned := c.scanned + c.pending.length
      matched := c.matched + found.length })

/-- How many records may still come, at least and at most, where the source says how many it has
    left, at least and at most: any of these may be rejected. -/
def boundsOf {β : Type} (left : Nat × β) : Nat × β := (0, left.2)

/-- How many records may still come, at least and at most. -/
def sizeHint (c : Cursor α) : Nat × Nat := boundsOf (c.pending.length, c.pending.length)

end Cursor

end GeoFilter
