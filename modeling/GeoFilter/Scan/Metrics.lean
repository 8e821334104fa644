import GeoFilter.Number.Decimal

set_option autoImplicit false

/-! # Metrics

Each parse and each finished cursor is one event. While a sink is installed, the innermost sink
gets the events; otherwise they are added up in counters, which stop at the greatest 64-bit
number. -/

namespace GeoFilter

/-- What metrics are told. -/
inductive MetricsEvent where
  | parse (ok : Bool)
  /-- The counts of a cursor at its end, each taken to be less than `2 ^ 64`. -/
  | cursor (scanned matched : Nat)
  deriving DecidableEq, Repr

/-- Sums of events. -/
structure Counters where
  parseCalls : Nat
  parseErrors : Nat
  cursorCalls : Nat
  recordsScanned : Nat
  recordsMatched : Nat
  deriving DecidableEq, Repr

namespace Counters

/-- No events. -/
def zero : Counters := ⟨0, 0, 0, 0, 0⟩

/-- Addition that stops at the greatest 64-bit number. -/
def plus (m n : Nat) : Nat := min (m + n) 0xFFFFFFFFFFFFFFFF

/-- Adds an event. -/
def add (c : Counters) : MetricsEvent → Counters
  | .parse ok =>
    { c with
      parseCalls := plus c.parseCalls 1
      parseErrors := if ok then c.parseErrors else plus c.parseErrors 1 }
  | .cursor scanned matched =>
    { c with
      cursorCalls := plus c.cursorCalls 1
      recordsScanned := plus c.recordsScanned scanned
      recordsMatched := plus c.recordsMatched matched }

/-- The share of scanned records that matched, if any record was scanned. -/
def matchRatio (c : Counters) : Option Float :=
  if c.recordsScanned = 0 then none
  else some (Number.ofInt c.recordsMatched / Number.ofInt c.recordsScanned)

end Counters

/-- The counters, and the events that the installed sinks have got, innermost sink first. -/
structure Metrics where
  counters : Counters
  sinks : List (List MetricsEvent)

namespace Metrics

/-- Metrics before the first event. -/
def start : Metrics := ⟨.zero, []⟩

/-- Sends an event to the innermost sink, or to the counters if there is no sink. -/
def record (m : Metrics) (event : MetricsEvent) : Metrics :=
  match m.sinks with
  | [] => { m with counters := m.counters.add event }
  | sink :: outer => { m with sinks := (sink ++ [event]) :: outer }

/-- Sets the counters back to zero. Sinks are not concerned. -/
def reset (m : Metrics) : Metrics := { m with counters := .zero }

/-- Installs a sink over those that are there. -/
def enter (m : Metrics) : Metrics := { m with sinks := [] :: m.sinks }

/-- Takes the innermost sink away, with the events that it has got. -/
def leave (m : Metrics) : List MetricsEvent × Metrics :=
  (m.sinks.headD [], { m with sinks := m.sinks.tail })

end Metrics

end GeoFilter
