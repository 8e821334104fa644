import GeoFilter.Cql.Parser
import GeoFilter.Record.Basic
import GeoFilter.Scan.Cursor
import GeoFilter.Scan.Metrics

set_option autoImplicit false

/-! # Sessions

A session parses filters, opens cursors with filters over records and reports what it does to
metrics. Filters that were parsed and cursors are known by the order in which they were made. A
cursor that is dropped reports its counts and is gone. -/

namespace GeoFilter

/-- The filters and cursors made so far, and the metrics. All cursors go through values of one type,
    each with a view of its own that shows them as records. -/
structure Session (α : Type := Record) where
  filters : List Filter
  cursors : List (Option (Cursor α))
  metrics : Metrics

/-- A filter or cursor that a session does not have. -/
inductive SessionError where
  | noSuchFilter
  | noSuchCursor
  deriving DecidableEq, Repr

/-- The wording. -/
def SessionError.message : SessionError → String
  | noSuchFilter => "no such filter"
  | noSuchCursor => "no such cursor"

namespace Session

variable {α : Type}

/-- A session before its first step. -/
def start : Session α := ⟨[], [], .start⟩

/-- Parses text; a filter that is made gets the next number. -/
def parse (s : Session α) (source : String) (maxDepth : Nat) :
    Except Cql.SyntaxError Nat × Session α :=
  match Cql.parse source maxDepth with
  | .ok f =>
    (.ok s.filters.length,
      { s with filters := s.filters ++ [f], metrics := s.metrics.record (.parse true) })
  | .error e => (.error e, { s with metrics := s.metrics.record (.parse false) })

/-- Opens a cursor with a filter over any records. -/
def openCursor (s : Session α) (f : Filter) (view : α → RecordView) (records : List α) :
    Session α :=
  { s with cursors := s.cursors ++ [some (.start f view records)] }

/-- Opens a cursor with a filter that was parsed; it gets the next number. -/
def select (s : Session) (filter : Nat) (records : List Record) :
    Except SessionError Nat × Session :=
  match s.filters[filter]? with
  | some f => (.ok s.cursors.length, s.openCursor f Record.view records)
  | none => (.error .noSuchFilter, s)

/-- Does something with a cursor that is still there. -/
def withCursor {β : Type} (s : Session α) (cursor : Nat) (act : Cursor α → β × Cursor α) :
    Except SessionError (β × Cursor α) × Session α :=
  match s.cursors[cursor]? with
  | some (some c) =>
    let (result, c') := act c
    (.ok (result, c'), { s with cursors := s.cursors.set cursor (some c') })
  | _ => (.error .noSuchCursor, s)

/-- Goes to the next record of a cursor. -/
def next [Relate] (s : Session α) (cursor : Nat) := s.withCursor cursor Cursor.next

/-- Goes through a cursor to its end. -/
def drain [Relate] (s : Session α) (cursor : Nat) := s.withCursor cursor Cursor.drain

/-- Drops a cursor, which reports its counts. -/
def drop (s : Session α) (cursor : Nat) : Except SessionError Unit × Session α :=
  match s.cursors[cursor]? with
  | some (some c) =>
    (.ok (),
      { s with
        cursors := s.cursors.set cursor none
        metrics := s.metrics.record (.cursor c.scanned c.matched) })
  | _ => (.error .noSuchCursor, s)

/-- Sets the counters back to zero. -/
def reset (s : Session α) : Session α := { s with metrics := s.metrics.reset }

/-- Installs a sink. -/
def enter (s : Session α) : Session α := { s with metrics := s.metrics.enter }

/-- Takes the innermost sink away. -/
def leave (s : Session α) : List MetricsEvent × Session α :=
  let (events, metrics) := s.metrics.leave
  (events, { s with metrics })

end Session

end GeoFilter
