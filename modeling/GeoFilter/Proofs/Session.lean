import GeoFilter.Proofs.Cursor
import GeoFilter.Proofs.Metrics
import GeoFilter.Session

set_option autoImplicit false

/-! # What sessions report

A session is any sequence of parses, of cursors that are opened with any filter over any records,
advanced and dropped, of resets and of scopes in which a sink is installed. Each parse is one event,
and so is the drop of each cursor; nothing else is. A cursor may be dropped in another scope than it
was opened in, or after a reset: its event belongs where it is dropped. -/

namespace GeoFilter

/-- The ways to have text parsed. They differ in the limit on nesting and in the form of errors. -/
inductive EntryPoint where
  | parse
  | parseWith (maxDepth : ℕ)
  | fromText
  | facade
  | facadeWith (maxDepth : ℕ)

/-- The limit on nesting. -/
def EntryPoint.maxDepth : EntryPoint → ℕ
  | parse | fromText | facade => Cql.defaultMaxDepth
  | parseWith maxDepth | facadeWith maxDepth => maxDepth

namespace Session

/-! ## Steps -/

/-- A step of a session. -/
inductive Step (α : Type) where
  | parse (entry : EntryPoint) (source : String)
  | select (f : Filter) (view : α → RecordView) (records : List α)
  | next (cursor : ℕ)
  | drain (cursor : ℕ)
  | drop (cursor : ℕ)
  | reset
  | enter
  | leave

variable {α : Type}

section

variable [Relate]

/-- The session after a step. -/
def take (s : Session α) : Step α → Session α
  | .parse entry source => (s.parse source entry.maxDepth).2
  | .select f view records => s.openCursor f view records
  | .next cursor => (s.next cursor).2
  | .drain cursor => (s.drain cursor).2
  | .drop cursor => (s.drop cursor).2
  | .reset => s.reset
  | .enter => s.enter
  | .leave => s.leave.2

/-- The session after some steps. -/
def run (s : Session α) (steps : List (Step α)) : Session α := steps.foldl take s

theorem run_cons (s : Session α) (step : Step α) (steps : List (Step α)) :
    s.run (step :: steps) = (s.take step).run steps := rfl

/-- A filter that is known by its number opens the cursor that the filter itself opens; a number
    that no filter has opens none. -/
theorem select_cases (s : Session) (i : ℕ) (records : List Record) :
    (s.select i records).2 = s ∨ ∃ f, s.filters[i]? = some f ∧
      (s.select i records).2 = s.take (.select f Record.view records) := by
  unfold select
  cases s.filters[i]? with
  | none => exact .inl rfl
  | some f => exact .inr ⟨f, rfl, rfl⟩

theorem run_append (s : Session α) (steps more : List (Step α)) :
    s.run (steps ++ more) = (s.run steps).run more := List.foldl_append

omit [Relate] in
/-- What is done with a cursor changes that cursor only, and nothing if there is none. -/
theorem withCursor_cases {β : Type} (s : Session α) (i : ℕ) (act : Cursor α → β × Cursor α) :
    (s.withCursor i act).2 = s ∨
    ∃ c, s.cursors[i]? = some (some c) ∧
      (s.withCursor i act).2 = { s with cursors := s.cursors.set i (some (act c).2) } := by
  unfold withCursor
  rcases s.cursors[i]? with _ | _ | c
  · exact .inl rfl
  · exact .inl rfl
  · exact .inr ⟨c, rfl, rfl⟩

omit [Relate] in
theorem metrics_withCursor {β : Type} (s : Session α) (i : ℕ) (act : Cursor α → β × Cursor α) :
    (s.withCursor i act).2.metrics = s.metrics := by
  rcases s.withCursor_cases i act with hSame | ⟨c, -, hSet⟩
  · rw [hSame]
  · rw [hSet]

/-! ## Events -/

/-- What a step is to metrics. -/
def happening (s : Session α) : Step α → Happening
  | .parse entry source => .event (.parse (Cql.parse source entry.maxDepth).isOk)
  | .drop cursor =>
    match s.cursors[cursor]? with
    | some (some c) => .event (.cursor c.scanned c.matched)
    | _ => .nothing
  | .reset => .reset
  | .enter => .enter
  | .leave => .leave
  | .select _ _ _ | .next _ | .drain _ => .nothing

omit [Relate] in
/-- A drop is an event of a cursor that is there, and nothing if there is none. -/
theorem happening_drop (s : Session α) (i : ℕ) :
    (∃ c, s.cursors[i]? = some (some c) ∧
      s.happening (.drop i) = .event (.cursor c.scanned c.matched)) ∨
    ((∀ c, s.cursors[i]? ≠ some (some c)) ∧ s.happening (.drop i) = .nothing) := by
  simp only [happening]
  rcases s.cursors[i]? with _ | _ | c
  · exact .inr ⟨fun _ => by simp, rfl⟩
  · exact .inr ⟨fun _ => by simp, rfl⟩
  · exact .inl ⟨c, rfl, rfl⟩

/-- What steps are to metrics, one after the other. -/
def happenings (s : Session α) : List (Step α) → List Happening
  | [] => []
  | step :: steps => s.happening step :: (s.take step).happenings steps

theorem happenings_append (s : Session α) (steps more : List (Step α)) :
    s.happenings (steps ++ more) = s.happenings steps ++ (s.run steps).happenings more := by
  induction steps generalizing s with
  | nil => rfl
  | cons step steps ih =>
    rw [List.cons_append, happenings, ih, happenings, run_cons, List.cons_append]

/-- A step does to the metrics what it is to them. -/
theorem metrics_take (s : Session α) (step : Step α) :
    (s.take step).metrics = s.metrics.happen (s.happening step) := by
  cases step with
  | parse entry source =>
    simp only [take, parse, happening]
    cases Cql.parse source entry.maxDepth <;> rfl
  | select f view records => rfl
  | next cursor => exact s.metrics_withCursor cursor Cursor.next
  | drain cursor => exact s.metrics_withCursor cursor Cursor.drain
  | drop cursor =>
    simp only [take, drop, happening]
    rcases s.cursors[cursor]? with _ | _ | c <;> rfl
  | reset | enter | leave => rfl

theorem metrics_run (s : Session α) (steps : List (Step α)) :
    (s.run steps).metrics = s.metrics.after (s.happenings steps) := by
  induction steps generalizing s with
  | nil => rfl
  | cons step steps ih =>
    rw [run_cons, ih, metrics_take, happenings, Metrics.after_cons]

/-! ## Cursors -/

/-- What a step does to the cursors: one is opened, advanced or dropped, or they stay as they
    are. -/
theorem cursors_take (s : Session α) (step : Step α) :
    (s.take step).cursors = s.cursors ∨
    (∃ f view records, (s.take step).cursors = s.cursors ++ [some (.start f view records)]) ∨
    (∃ i c c', s.cursors[i]? = some (some c) ∧ (c' = c.next.2 ∨ c' = c.drain.2) ∧
      (s.take step).cursors = s.cursors.set i (some c')) ∨
    (∃ i c, step = .drop i ∧ s.cursors[i]? = some (some c) ∧
      (s.take step).cursors = s.cursors.set i none) := by
  cases step with
  | parse entry source =>
    left
    simp only [take, parse]
    cases Cql.parse source entry.maxDepth <;> rfl
  | select f view records => exact .inr (.inl ⟨f, view, records, rfl⟩)
  | next cursor =>
    rcases s.withCursor_cases cursor Cursor.next with hSame | ⟨c, hCursor, hSet⟩
    · exact .inl (congrArg cursors hSame)
    · exact .inr (.inr (.inl ⟨cursor, c, _, hCursor, .inl rfl, congrArg cursors hSet⟩))
  | drain cursor =>
    rcases s.withCursor_cases cursor Cursor.drain with hSame | ⟨c, hCursor, hSet⟩
    · exact .inl (congrArg cursors hSame)
    · exact .inr (.inr (.inl ⟨cursor, c, _, hCursor, .inr rfl, congrArg cursors hSet⟩))
  | drop cursor =>
    simp only [take, drop]
    rcases hCursor : s.cursors[cursor]? with _ | _ | c
    · exact .inl rfl
    · exact .inl rfl
    · exact .inr (.inr (.inr ⟨cursor, c, rfl, hCursor, rfl⟩))
  | reset | enter | leave => exact .inl rfl

/-- Every cursor that is still there has counted the records that it has looked at. -/
def Counts (s : Session α) : Prop := ∀ c, some c ∈ s.cursors → ∃ seen, c.HasSeen seen

theorem counts_start : (start : Session α).Counts := fun _ hMem => nomatch hMem

theorem Counts.take {s : Session α} (h : s.Counts) (step : Step α) : (s.take step).Counts := by
  intro c hMem
  rcases s.cursors_take step with hSame | ⟨f, view, records, hOpened⟩ |
    ⟨i, c₀, c', hCursor, hAdvanced, hSet⟩ | ⟨i, c₀, -, -, hSet⟩
  · rw [hSame] at hMem
    exact h c hMem
  · rw [hOpened, List.mem_append, List.mem_singleton] at hMem
    rcases hMem with hMem | hNew
    · exact h c hMem
    · rw [Option.some.inj hNew]
      exact ⟨[], Cursor.hasSeen_start f view records⟩
  · rw [hSet] at hMem
    rcases List.mem_or_eq_of_mem_set hMem with hMem | hNew
    · exact h c hMem
    · obtain ⟨seen, hSeen⟩ := h c₀ (List.mem_of_getElem? hCursor)
      rw [Option.some.inj hNew]
      rcases hAdvanced with rfl | rfl
      · obtain ⟨passed, -, hNext⟩ := hSeen.next
        exact ⟨seen ++ passed, hNext⟩
      · exact ⟨seen ++ c₀.pending, hSeen.drain⟩
  · rw [hSet] at hMem
    rcases List.mem_or_eq_of_mem_set hMem with hMem | hNone
    · exact h c hMem
    · exact nomatch hNone

theorem Counts.run {s : Session α} (h : s.Counts) (steps : List (Step α)) :
    (s.run steps).Counts := by
  induction steps generalizing s with
  | nil => exact h
  | cons step steps ih => exact ih (h.take step)

/-- No event counts more records that matched than records that were scanned. -/
theorem Counts.share_le {s : Session α} (h : s.Counts) {steps : List (Step α)} {e : MetricsEvent}
    (hMem : .event e ∈ s.happenings steps) : e.share.recordsMatched ≤ e.share.recordsScanned := by
  induction steps generalizing s with
  | nil => exact nomatch hMem
  | cons step steps ih =>
    rw [happenings, List.mem_cons] at hMem
    rcases hMem with hFirst | hMem
    · cases step with
      | parse entry source =>
        obtain rfl := Happening.event.inj hFirst
        exact Nat.le_refl 0
      | drop cursor =>
        rcases s.happening_drop cursor with ⟨c, hCursor, hEvent⟩ | ⟨-, hNothing⟩
        · obtain rfl := Happening.event.inj (hFirst.trans hEvent)
          obtain ⟨seen, hSeen⟩ := h c (List.mem_of_getElem? hCursor)
          exact hSeen.matched_le
        · exact nomatch hFirst.trans hNothing
      | select | next | drain | reset | enter | leave => exact nomatch hFirst
    · exact ih (h.take step) hMem

/-! ## The event of each cursor -/

/-- The cursor was there, and was dropped. -/
def Gone (s : Session α) (i : ℕ) : Prop := s.cursors[i]? = some none

omit [Relate] in
theorem not_gone_start (i : ℕ) : ¬ (start : Session α).Gone i := by simp [Gone, start]

omit [Relate] in
/-- A cursor that is there is not one that was dropped. -/
theorem Gone.ne {s : Session α} {i j : ℕ} {c : Cursor α} (h : s.Gone i)
    (hCursor : s.cursors[j]? = some (some c)) : j ≠ i := by
  rintro rfl
  exact nomatch hCursor.symm.trans h

theorem Gone.take {s : Session α} {i : ℕ} (h : s.Gone i) (step : Step α) :
    (s.take step).Gone i := by
  rcases s.cursors_take step with hSame | ⟨f, view, records, hOpened⟩ |
    ⟨j, c, c', hCursor, -, hSet⟩ | ⟨j, c, -, hCursor, hSet⟩
  · rwa [Gone, hSame]
  · rw [Gone, hOpened, List.getElem?_append_left (List.getElem?_eq_some_iff.1 h).1, h]
  · rwa [Gone, hSet, List.getElem?_set_ne (h.ne hCursor)]
  · rwa [Gone, hSet, List.getElem?_set_ne (h.ne hCursor)]

/-- Only a drop takes a cursor away, and only one that was there. -/
theorem drop_of_gone {s : Session α} {i : ℕ} {step : Step α} (h : ¬ s.Gone i)
    (hGone : (s.take step).Gone i) : ∃ c, step = .drop i ∧ s.cursors[i]? = some (some c) := by
  unfold Gone at h hGone
  rcases s.cursors_take step with hSame | ⟨f, view, records, hOpened⟩ |
    ⟨j, c, c', hCursor, -, hSet⟩ | ⟨j, c, rfl, hCursor, hSet⟩
  · rw [hSame] at hGone
    exact absurd hGone h
  · rw [hOpened, List.getElem?_append] at hGone
    split at hGone
    · exact absurd hGone h
    · rw [List.getElem?_singleton] at hGone
      split at hGone
      · exact nomatch hGone
      · exact nomatch hGone
  · rw [hSet] at hGone
    by_cases hEq : j = i
    · subst hEq
      rw [List.getElem?_set_self (List.getElem?_eq_some_iff.1 hCursor).1] at hGone
      exact nomatch hGone
    · rw [List.getElem?_set_ne hEq] at hGone
      exact absurd hGone h
  · rw [hSet] at hGone
    by_cases hEq : j = i
    · subst hEq
      exact ⟨c, rfl, hCursor⟩
    · rw [List.getElem?_set_ne hEq] at hGone
      exact absurd hGone h

/-- The event of a step, if the step drops the cursor. -/
def reportOf? (s : Session α) (i : ℕ) : Step α → Option MetricsEvent
  | .drop j =>
    match s.happening (.drop j) with
    | .event e => if j = i then some e else none
    | _ => none
  | _ => none

/-- The events of the steps that drop the cursor. -/
def reportsOf (s : Session α) (i : ℕ) : List (Step α) → List MetricsEvent
  | [] => []
  | step :: steps => (s.reportOf? i step).toList ++ (s.take step).reportsOf i steps

omit [Relate] in
theorem reportOf?_drop {s : Session α} {i : ℕ} {c : Cursor α}
    (h : s.cursors[i]? = some (some c)) :
    s.reportOf? i (.drop i) = some (.cursor c.scanned c.matched) := by
  rcases s.happening_drop i with ⟨c', hCursor, hEvent⟩ | ⟨hAbsent, -⟩
  · obtain rfl := Option.some.inj (Option.some.inj (h.symm.trans hCursor))
    simp only [reportOf?, hEvent, if_true]
  · exact absurd h (hAbsent c)

omit [Relate] in
/-- A step that does not drop the cursor gives no event of it. -/
theorem reportOf?_none {s : Session α} {i : ℕ} {step : Step α}
    (h : ∀ c, step = .drop i → s.cursors[i]? ≠ some (some c)) : s.reportOf? i step = none := by
  cases step with
  | drop j =>
    rcases s.happening_drop j with ⟨c, hCursor, hEvent⟩ | ⟨-, hNothing⟩
    · have hNe : j ≠ i := by
        rintro rfl
        exact h c rfl hCursor
      simp only [reportOf?, hEvent, if_neg hNe]
    · simp only [reportOf?, hNothing]
  | parse | select | next | drain | reset | enter | leave => rfl

theorem Gone.reportsOf {s : Session α} {i : ℕ} (h : s.Gone i) (steps : List (Step α)) :
    s.reportsOf i steps = [] := by
  induction steps generalizing s with
  | nil => rfl
  | cons step steps ih =>
    have hNone : s.reportOf? i step = none :=
      reportOf?_none fun c _ hCursor => h.ne hCursor rfl
    rw [Session.reportsOf, hNone, ih (h.take step)]
    rfl

theorem Gone.run {s : Session α} {i : ℕ} (h : s.Gone i) (steps : List (Step α)) :
    (s.run steps).Gone i := by
  induction steps generalizing s with
  | nil => exact h
  | cons step steps ih => exact ih (h.take step)

/-- A cursor gives no event while it is there, and the drop that takes it away gives the only
    one. -/
theorem reportsOf_cases {s : Session α} {i : ℕ} (h : ¬ s.Gone i) (steps : List (Step α)) :
    (¬ (s.run steps).Gone i ∧ s.reportsOf i steps = []) ∨
    ((s.run steps).Gone i ∧ ∃ before after c, steps = before ++ .drop i :: after ∧
      (s.run before).cursors[i]? = some (some c) ∧
      s.reportsOf i steps = [.cursor c.scanned c.matched]) := by
  induction steps generalizing s with
  | nil => exact .inl ⟨h, rfl⟩
  | cons step steps ih =>
    by_cases hGone : (s.take step).Gone i
    · obtain ⟨c, rfl, hCursor⟩ := drop_of_gone h hGone
      refine .inr ⟨hGone.run steps, [], steps, c, rfl, hCursor, ?_⟩
      rw [reportsOf, reportOf?_drop hCursor, hGone.reportsOf steps]
      rfl
    · have hNone : s.reportOf? i step = none := by
        refine reportOf?_none fun c hStep hCursor => hGone ?_
        subst hStep
        simp only [take, drop, hCursor]
        exact List.getElem?_set_self (List.getElem?_eq_some_iff.1 hCursor).1
      rw [reportsOf, hNone]
      rcases ih hGone with ⟨hThere, hNothing⟩ | ⟨hLater, before, after, c, rfl, hCursor, hReport⟩
      · exact .inl ⟨hThere, hNothing⟩
      · exact .inr ⟨hLater, step :: before, after, c, rfl, hCursor, hReport⟩

/-! ## Resets -/

theorem reset_of_happening {s : Session α} {steps : List (Step α)}
    (h : .reset ∈ s.happenings steps) : .reset ∈ steps := by
  induction steps generalizing s with
  | nil => exact nomatch h
  | cons step steps ih =>
    rw [happenings, List.mem_cons] at h
    rcases h with hFirst | hMem
    · cases step with
      | reset => exact List.mem_cons_self
      | drop cursor =>
        rcases s.happening_drop cursor with ⟨c, -, hEvent⟩ | ⟨-, hNothing⟩
        · exact nomatch hFirst.trans hEvent
        · exact nomatch hFirst.trans hNothing
      | parse | select | next | drain | enter | leave => exact nomatch hFirst
    · exact List.mem_cons_of_mem _ (ih hMem)

/-- The steps up to the last reset, or none if there is no reset. -/
def UpToReset (before : List (Step α)) : Prop :=
  before = [] ∨ ∃ earlier, before = earlier ++ [.reset]

omit [Relate] in
theorem exists_upToReset (steps : List (Step α)) :
    ∃ before after, steps = before ++ after ∧ UpToReset before ∧ .reset ∉ after := by
  induction steps using List.reverseRecOn with
  | nil => exact ⟨[], [], rfl, .inl rfl, List.not_mem_nil⟩
  | append_singleton steps step ih =>
    by_cases hReset : step = .reset
    · subst hReset
      exact ⟨steps ++ [.reset], [], (List.append_nil _).symm, .inr ⟨steps, rfl⟩, List.not_mem_nil⟩
    · obtain ⟨before, after, rfl, hBefore, hAfter⟩ := ih
      refine ⟨before, after ++ [step], List.append_assoc _ _ _, hBefore, ?_⟩
      rw [List.mem_append, List.mem_singleton, not_or]
      exact ⟨hAfter, Ne.symm hReset⟩

theorem counters_upToReset {before : List (Step α)} (h : UpToReset before) :
    (start.run before).metrics.counters = .zero := by
  rcases h with rfl | ⟨earlier, rfl⟩
  · rfl
  · rw [run_append]
    rfl

/-! ## Where the events of a session go -/

open Happening

/-- The success of a parse, if the step is one. -/
def Step.parsed? : Step α → Option Bool
  | .parse entry source => some (Cql.parse source entry.maxDepth).isOk
  | _ => none

/-- The success of a parse, if that is what happened. -/
def parsed? : Happening → Option Bool
  | .event (.parse ok) => some ok
  | _ => none

theorem parsed_happenings (s : Session α) (steps : List (Step α)) :
    (s.happenings steps).filterMap parsed? = steps.filterMap Step.parsed? := by
  induction steps generalizing s with
  | nil => rfl
  | cons step steps ih =>
    have hStep : parsed? (s.happening step) = step.parsed? := by
      cases step with
      | drop cursor =>
        rcases s.happening_drop cursor with ⟨c, -, hEvent⟩ | ⟨-, hNothing⟩
        · rw [hEvent]
          rfl
        · rw [hNothing]
          rfl
      | parse | select | next | drain | reset | enter | leave => rfl
    rw [happenings, List.filterMap_cons, List.filterMap_cons, hStep, ih]

/-- Every event of a session is told once, where it belongs. -/
structure Accounted (steps : List (Step α)) : Prop where
  /-- Each parse is one event, with its success, and no other step is such an event. -/
  parses : (start.happenings steps).filterMap parsed? = steps.filterMap Step.parsed?
  /-- Each cursor that was dropped is one event, with the counts of the records that it had looked
      at by then. The others are none. -/
  cursors : ∀ i, (¬ (start.run steps).Gone i ∧ start.reportsOf i steps = []) ∨
    ((start.run steps).Gone i ∧ ∃ before after c seen, steps = before ++ .drop i :: after ∧
      (start.run before).cursors[i]? = some (some c) ∧ c.HasSeen seen ∧
      start.reportsOf i steps = [.cursor c.scanned c.matched])
  /-- An event goes to the innermost sink, and to the counters if there is no sink. -/
  delivered : ∀ before step after e, steps = before ++ step :: after →
    (start.run before).happening step = .event e →
    ((start.run before).metrics.sinks = [] ∧
      ((start.run before).take step).metrics
        = { (start.run before).metrics with
            counters := (start.run before).metrics.counters.add e }) ∨
    ∃ sink outer, (start.run before).metrics.sinks = sink :: outer ∧
      ((start.run before).take step).metrics
        = { (start.run before).metrics with sinks := (sink ++ [e]) :: outer }
  /-- The counters show the sums of the events outside all scopes since the last reset. -/
  counters : ∃ before after d, steps = before ++ after ∧ UpToReset before ∧ .reset ∉ after ∧
    openAfter 0 (start.happenings before) = some d ∧
    (start.run steps).metrics.counters = .total (outside d ((start.run before).happenings after))
  /-- The sink of a scope that is still open has got the events that are in no scope inside it, and
      the sinks outside it are as they were. -/
  entered : ∀ before inside d, steps = before ++ .enter :: inside →
    openAfter 0 ((start.run before).enter.happenings inside) = some d →
    ∃ opened, opened.length = d ∧ (start.run steps).metrics.sinks
      = opened ++ outside 0 ((start.run before).enter.happenings inside)
        :: (start.run before).metrics.sinks
  /-- A scope that is left gives back the events that are in no scope inside it, and the sinks are
      those from before it was entered. -/
  left : ∀ before inside, steps = before ++ .enter :: (inside ++ [.leave]) →
    openAfter 0 ((start.run before).enter.happenings inside) = some 0 →
    ((start.run before).enter.run inside).leave.1
        = outside 0 ((start.run before).enter.happenings inside) ∧
      (start.run steps).metrics.sinks = (start.run before).metrics.sinks
  parseErrors_le : (start.run steps).metrics.counters.parseErrors
    ≤ (start.run steps).metrics.counters.parseCalls
  recordsMatched_le : (start.run steps).metrics.counters.recordsMatched
    ≤ (start.run steps).metrics.counters.recordsScanned

theorem metrics_take_event {s : Session α} {step : Step α} {e : MetricsEvent}
    (h : s.happening step = .event e) :
    (s.metrics.sinks = [] ∧
      (s.take step).metrics = { s.metrics with counters := s.metrics.counters.add e }) ∨
    ∃ sink outer, s.metrics.sinks = sink :: outer ∧
      (s.take step).metrics = { s.metrics with sinks := (sink ++ [e]) :: outer } := by
  rw [metrics_take, h]
  rcases s.metrics with ⟨counters, _ | ⟨sink, outer⟩⟩
  · exact .inl ⟨rfl, rfl⟩
  · exact .inr ⟨sink, outer, rfl, rfl⟩

/-- The counters of a session in which only scopes are left that were entered. -/
theorem counters_run {steps : List (Step α)} {n : ℕ}
    (h : openAfter 0 (start.happenings steps) = some n) :
    ∃ before after d, steps = before ++ after ∧ UpToReset before ∧ .reset ∉ after ∧
      openAfter 0 (start.happenings before) = some d ∧
      (start.run steps).metrics.counters
        = .total (outside d ((start.run before).happenings after)) := by
  obtain ⟨before, after, rfl, hBefore, hAfter⟩ := exists_upToReset steps
  rw [happenings_append] at h
  obtain ⟨d, hOpen⟩ := openAfter_of_append h
  have hSinks : (start.run before).metrics.sinks.length = d := by
    rw [metrics_run]
    exact Metrics.length_sinks (m := start.metrics) hOpen
  refine ⟨before, after, d, rfl, hBefore, hAfter, hOpen, ?_⟩
  have hNoReset : .reset ∉ (start.run before).happenings after :=
    fun hMem => hAfter (reset_of_happening hMem)
  rw [run_append, metrics_run, Metrics.counters_after hNoReset, counters_upToReset hBefore,
    Counters.foldl_add, hSinks]

theorem sinks_run {s : Session α} {inside : List (Step α)} {d : ℕ}
    (h : openAfter 0 (s.enter.happenings inside) = some d) :
    ∃ opened, opened.length = d ∧ (s.enter.run inside).metrics.sinks
      = opened ++ outside 0 (s.enter.happenings inside) :: s.metrics.sinks := by
  rw [metrics_run]
  exact Metrics.sinks_after_enter s.metrics h

/-- A session in which only scopes are left that were entered accounts for all its events. -/
theorem run_accounted {steps : List (Step α)} {n : ℕ}
    (h : openAfter 0 (start.happenings steps) = some n) : Accounted steps where
  parses := parsed_happenings start steps
  cursors i := by
    refine (reportsOf_cases (not_gone_start i) steps).imp_right ?_
    rintro ⟨hGone, before, after, c, hSteps, hCursor, hReport⟩
    obtain ⟨seen, hSeen⟩ := counts_start.run before c (List.mem_of_getElem? hCursor)
    exact ⟨hGone, before, after, c, seen, hSteps, hCursor, hSeen, hReport⟩
  delivered before step after e _ hEvent := metrics_take_event hEvent
  counters := counters_run h
  entered before inside d hSteps hOpen := by
    subst hSteps
    rw [run_append, run_cons]
    exact sinks_run hOpen
  left before inside hSteps hOpen := by
    subst hSteps
    obtain ⟨opened, hLength, hSinks⟩ := sinks_run hOpen
    obtain rfl := List.eq_nil_of_length_eq_zero hLength
    rw [List.nil_append] at hSinks
    rw [run_append, run_cons, run_append]
    exact ⟨congrArg (List.headD · []) hSinks, congrArg List.tail hSinks⟩
  parseErrors_le := by
    obtain ⟨before, after, d, -, -, -, -, hCounters⟩ := counters_run h
    rw [hCounters]
    exact Counters.parseErrors_le _
  recordsMatched_le := by
    obtain ⟨before, after, d, -, -, -, -, hCounters⟩ := counters_run h
    rw [hCounters]
    refine Counters.recordsMatched_le fun e hMem => ?_
    exact (counts_start.run before).share_le (mem_of_outside hMem)

end

/-- A cursor that is opened outside all scopes and dropped in the inner one of two, with a reset
    between the ends of the scopes. -/
theorem run_accounted_nested :
    Accounted [.parse .fromText "INCLUDE", .select .everything Record.view [Record.empty], .enter,
      .parse (.parseWith 3) "'", .next 0, .enter, .drop 0, .leave, .reset, .leave,
      .parse .facade "'"] := by
  refine run_accounted (n := 0) ?_
  simp only [happenings, happening, Happening.openAfter]
  -- Whether the cursor is there decides what the drop is, but not which scopes are open.
  split
  · rfl
  · rfl

end Session

end GeoFilter
