import GeoFilter.Scan.Metrics
import Mathlib

set_option autoImplicit false

/-! # Where events go

What happens to metrics is a list of events, resets, and scopes that are entered and left. An event
goes to the scope that was entered last and is still open, and to the counters if no scope is open.
So a sink holds the events of its scope that are in no scope inside it, and the counters hold the
sums of the events outside all scopes since the last reset. -/

namespace GeoFilter

/-! ## Sums of events -/

/-- What an event adds to each counter. -/
def MetricsEvent.share : MetricsEvent → Counters
  | .parse ok => ⟨1, if ok then 0 else 1, 0, 0, 0⟩
  | .cursor scanned matched => ⟨0, 0, 1, scanned, matched⟩

namespace Counters

/-- A sum as a counter shows it: no more than the greatest 64-bit number. -/
def saturated (ns : List ℕ) : ℕ := min ns.sum 0xFFFFFFFFFFFFFFFF

/-- The sums of events. -/
def total (events : List MetricsEvent) : Counters where
  parseCalls := saturated (events.map fun e => e.share.parseCalls)
  parseErrors := saturated (events.map fun e => e.share.parseErrors)
  cursorCalls := saturated (events.map fun e => e.share.cursorCalls)
  recordsScanned := saturated (events.map fun e => e.share.recordsScanned)
  recordsMatched := saturated (events.map fun e => e.share.recordsMatched)

theorem plus_saturated (ns : List ℕ) (n : ℕ) :
    plus (saturated ns) n = saturated (ns ++ [n]) := by
  simp only [plus, saturated, List.sum_append, List.sum_singleton]
  omega

theorem saturated_append_zero (ns : List ℕ) : saturated (ns ++ [0]) = saturated ns := by
  simp [saturated]

theorem saturated_le {events : List MetricsEvent} {f g : MetricsEvent → ℕ}
    (h : ∀ e ∈ events, f e ≤ g e) : saturated (events.map f) ≤ saturated (events.map g) :=
  min_le_min_right _ (List.sum_le_sum h)

/-- One more event is added to the sums, whether they have reached their limit or not. -/
theorem add_total (events : List MetricsEvent) (e : MetricsEvent) :
    (total events).add e = total (events ++ [e]) := by
  cases e with
  | parse ok =>
    cases ok <;>
      simp [add, total, MetricsEvent.share, plus_saturated, saturated_append_zero]
  | cursor scanned matched =>
    simp [add, total, MetricsEvent.share, plus_saturated, saturated_append_zero]

theorem foldl_add (events : List MetricsEvent) : events.foldl add zero = total events := by
  induction events using List.reverseRecOn with
  | nil => rfl
  | append_singleton events e ih => rw [List.foldl_append, ih]; exact add_total events e

theorem parseErrors_le (events : List MetricsEvent) :
    (total events).parseErrors ≤ (total events).parseCalls := by
  refine saturated_le fun e _ => ?_
  cases e with
  | parse ok => cases ok <;> decide
  | cursor => exact Nat.le_refl 0

theorem recordsMatched_le {events : List MetricsEvent}
    (h : ∀ e ∈ events, e.share.recordsMatched ≤ e.share.recordsScanned) :
    (total events).recordsMatched ≤ (total events).recordsScanned := saturated_le h

end Counters

/-! ## What happens to metrics -/

/-- What can happen to metrics. -/
inductive Happening where
  | event (e : MetricsEvent)
  | reset
  | enter
  | leave
  | nothing

namespace Happening

/-- The number of open scopes after a list of happenings, where `d` are open before it; nothing if
    more scopes are left than are open. -/
def openAfter : ℕ → List Happening → Option ℕ
  | d, [] => some d
  | d, .enter :: hs => openAfter (d + 1) hs
  | 0, .leave :: _ => none
  | d + 1, .leave :: hs => openAfter d hs
  | d, .event _ :: hs | d, .reset :: hs | d, .nothing :: hs => openAfter d hs

/-- The events outside all scopes, where `d` scopes are open before the first happening. -/
def outside : ℕ → List Happening → List MetricsEvent
  | _, [] => []
  | d, .enter :: hs => outside (d + 1) hs
  | d, .leave :: hs => outside (d - 1) hs
  | 0, .event e :: hs => e :: outside 0 hs
  | d + 1, .event _ :: hs => outside (d + 1) hs
  | d, .reset :: hs | d, .nothing :: hs => outside d hs

/-- No more scopes are left than are open before the end either. -/
theorem openAfter_of_append {d d' : ℕ} {hs more : List Happening}
    (h : openAfter d (hs ++ more) = some d') : ∃ d'', openAfter d hs = some d'' := by
  induction hs generalizing d with
  | nil => exact ⟨d, rfl⟩
  | cons x hs ih =>
    cases x with
    | leave =>
      cases d with
      | zero => exact nomatch h
      | succ d => exact ih h
    | enter => exact ih h
    | event | reset | nothing =>
      rw [List.cons_append, openAfter] at h
      rw [openAfter]
      exact ih h

theorem mem_of_outside {d : ℕ} {hs : List Happening} {e : MetricsEvent} (h : e ∈ outside d hs) :
    .event e ∈ hs := by
  induction hs generalizing d with
  | nil => exact nomatch h
  | cons x hs ih =>
    cases x with
    | event e' =>
      cases d with
      | zero =>
        rw [outside, List.mem_cons] at h
        rcases h with rfl | h
        · exact List.mem_cons_self
        · exact List.mem_cons_of_mem _ (ih h)
      | succ d =>
        rw [outside] at h
        exact List.mem_cons_of_mem _ (ih h)
    | reset | enter | leave | nothing =>
      rw [outside] at h
      exact List.mem_cons_of_mem _ (ih h)

end Happening

namespace Metrics

open Happening

/-- The metrics after a happening. -/
def happen (m : Metrics) : Happening → Metrics
  | .event e => m.record e
  | .reset => m.reset
  | .enter => m.enter
  | .leave => m.leave.2
  | .nothing => m

/-- The metrics after a list of happenings. -/
def after (m : Metrics) (hs : List Happening) : Metrics := hs.foldl happen m

theorem after_cons (m : Metrics) (x : Happening) (hs : List Happening) :
    m.after (x :: hs) = (m.happen x).after hs := rfl

/-! ## Sinks -/

/-- The sink of a scope that stays open gets the events that are in no scope inside it. The scopes
    `opened` inside it come and go, and what is outside it stays. -/
theorem sinks_after {hs : List Happening} {m : Metrics} {sink : List MetricsEvent}
    {opened outer : List (List MetricsEvent)} {d : ℕ} (hSinks : m.sinks = opened ++ sink :: outer)
    (h : openAfter opened.length hs = some d) :
    ∃ opened', opened'.length = d ∧
      (m.after hs).sinks = opened' ++ (sink ++ outside opened.length hs) :: outer := by
  induction hs generalizing m sink opened with
  | nil =>
    refine ⟨opened, Option.some.inj h, ?_⟩
    rw [outside, List.append_nil]
    exact hSinks
  | cons x hs ih =>
    rw [after_cons]
    cases x with
    | event e =>
      rw [openAfter] at h
      cases opened with
      | nil =>
        have hNext : (m.happen (.event e)).sinks = [] ++ (sink ++ [e]) :: outer := by
          rw [List.nil_append] at hSinks
          simp only [happen, record, hSinks, List.nil_append]
        obtain ⟨opened', hLength, hAfter⟩ := ih hNext h
        refine ⟨opened', hLength, ?_⟩
        rw [hAfter, List.length_nil, outside, List.append_assoc, List.singleton_append]
      | cons inner opened =>
        have hNext : (m.happen (.event e)).sinks = (inner ++ [e]) :: opened ++ sink :: outer := by
          rw [List.cons_append] at hSinks
          simp only [happen, record, hSinks, List.cons_append]
        obtain ⟨opened', hLength, hAfter⟩ := ih hNext h
        refine ⟨opened', hLength, ?_⟩
        rw [hAfter, List.length_cons, List.length_cons, outside]
    | reset =>
      rw [openAfter] at h
      rw [outside]
      exact ih hSinks h
    | enter =>
      rw [openAfter] at h
      rw [outside]
      have hNext : (m.happen .enter).sinks = ([] :: opened) ++ sink :: outer :=
        congrArg (List.cons []) hSinks
      exact ih hNext h
    | leave =>
      cases opened with
      | nil => exact nomatch h
      | cons inner opened =>
        have hNext : (m.happen .leave).sinks = opened ++ sink :: outer :=
          congrArg List.tail hSinks
        rw [outside, List.length_cons, Nat.add_sub_cancel]
        exact ih hNext h
    | nothing =>
      rw [openAfter] at h
      rw [outside]
      exact ih hSinks h

/-- A scope that is entered and stays open: the scopes inside it are those before its own sink. -/
theorem sinks_after_enter {hs : List Happening} {d : ℕ} (m : Metrics)
    (h : openAfter 0 hs = some d) :
    ∃ opened, opened.length = d ∧
      (m.enter.after hs).sinks = opened ++ outside 0 hs :: m.sinks := by
  have hSinks : m.enter.sinks = [] ++ [] :: m.sinks := rfl
  exact sinks_after hSinks h

/-- There are as many sinks as open scopes. -/
theorem length_sinks {hs : List Happening} {m : Metrics} {d : ℕ}
    (h : openAfter m.sinks.length hs = some d) : (m.after hs).sinks.length = d := by
  induction hs generalizing m with
  | nil => exact Option.some.inj h
  | cons x hs ih =>
    rw [after_cons]
    refine ih ?_
    cases x with
    | event e =>
      rw [openAfter] at h
      rw [← h, happen, record]
      cases m.sinks <;> rfl
    | leave =>
      cases hSinks : m.sinks with
      | nil =>
        rw [hSinks] at h
        exact nomatch h
      | cons sink outer =>
        rw [hSinks] at h
        rw [happen, leave, hSinks]
        exact h
    | enter => exact h
    | reset | nothing =>
      rw [openAfter] at h
      exact h

/-! ## Counters -/

/-- The counters get the events outside all scopes. -/
theorem counters_after {hs : List Happening} (hReset : .reset ∉ hs) (m : Metrics) :
    (m.after hs).counters = (outside m.sinks.length hs).foldl Counters.add m.counters := by
  induction hs generalizing m with
  | nil => rfl
  | cons x hs ih =>
    rw [List.mem_cons, not_or] at hReset
    rw [after_cons, ih hReset.2]
    cases x with
    | event e =>
      rw [happen, record]
      cases m.sinks with
      | nil => rfl
      | cons sink outer => rfl
    | reset => exact absurd rfl hReset.1
    | enter => rw [outside]; rfl
    | leave => rw [outside, happen, leave, List.length_tail]
    | nothing => rw [outside]; rfl

end Metrics

end GeoFilter
