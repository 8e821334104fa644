import GeoFilter.Scan.Cursor
import Mathlib.Data.List.ReduceOption

set_option autoImplicit false

/-! # What cursors count

A cursor has looked at the records from the first one up to the one at which it stopped last. Its
two counts are the number of these records and the number of those among them that its filter
accepts.

A number of steps gives as many of the accepted records, in their order, and after them nothing. No
record is looked at before a step needs it. -/

namespace GeoFilter.Cursor

variable {α : Type}

/-! ## Going to the next record -/

theorem advance_some {accepts : α → Bool} {records rest : List α} {record : α} {n k : ℕ}
    (h : advance accepts n records = (some record, rest, k)) :
    ∃ skipped, records = skipped ++ record :: rest ∧ (∀ r ∈ skipped, accepts r = false) ∧
      accepts record = true ∧ k = n + (skipped.length + 1) := by
  induction records generalizing n with
  | nil => exact nomatch h
  | cons r records ih =>
    rw [advance] at h
    split at h
    · next hAccepts =>
      obtain ⟨rfl, rfl, rfl⟩ : r = record ∧ records = rest ∧ n + 1 = k := by simpa using h
      exact ⟨[], rfl, List.forall_mem_nil _, hAccepts, rfl⟩
    · next hRejects =>
      obtain ⟨skipped, rfl, hSkipped, hAccepts, rfl⟩ := ih h
      refine ⟨r :: skipped, rfl, ?_, hAccepts, by rw [List.length_cons]; omega⟩
      rw [List.forall_mem_cons]
      exact ⟨by simpa using hRejects, hSkipped⟩

theorem advance_none {accepts : α → Bool} {records rest : List α} {n k : ℕ}
    (h : advance accepts n records = (none, rest, k)) :
    rest = [] ∧ (∀ r ∈ records, accepts r = false) ∧ k = n + records.length := by
  induction records generalizing n with
  | nil =>
    obtain ⟨rfl, rfl⟩ : [] = rest ∧ n = k := by simpa [advance] using h
    exact ⟨rfl, List.forall_mem_nil _, rfl⟩
  | cons r records ih =>
    rw [advance] at h
    split at h
    · exact nomatch h
    · next hRejects =>
      obtain ⟨rfl, hRecords, rfl⟩ := ih h
      refine ⟨rfl, ?_, by rw [List.length_cons]; omega⟩
      rw [List.forall_mem_cons]
      exact ⟨by simpa using hRejects, hRecords⟩

section

variable [Relate]

/-- What a step to the next record does: it passes over records that the filter rejects, and ends
    after one that it accepts, or at the end. -/
theorem next_cases (c : Cursor α) :
    (∃ skipped record rest, c.pending = skipped ++ record :: rest ∧
      (∀ r ∈ skipped, c.accepts r = false) ∧ c.accepts record = true ∧
      c.next = (some record, ⟨c.filter, c.view, rest, c.scanned + (skipped.length + 1),
        c.matched + 1⟩)) ∨
    ((∀ r ∈ c.pending, c.accepts r = false) ∧
      c.next = (none, ⟨c.filter, c.view, [], c.scanned + c.pending.length, c.matched⟩)) := by
  unfold next
  rcases h : advance c.accepts 0 c.pending with ⟨_ | record, rest, k⟩
  · obtain ⟨rfl, hRejects, rfl⟩ := advance_none h
    refine .inr ⟨hRejects, ?_⟩
    rw [Nat.zero_add]
  · obtain ⟨skipped, hPending, hSkipped, hAccepts, rfl⟩ := advance_some h
    refine .inl ⟨skipped, record, rest, hPending, hSkipped, hAccepts, ?_⟩
    rw [Nat.zero_add]

/-! ## Counts -/

/-- The cursor has looked at these records so far, and counted them. -/
structure HasSeen (c : Cursor α) (seen : List α) : Prop where
  scanned : c.scanned = seen.length
  matched : c.matched = (seen.filter c.accepts).length

theorem hasSeen_start (f : Filter) (view : α → RecordView) (records : List α) :
    (start f view records).HasSeen [] := ⟨rfl, rfl⟩

variable {c : Cursor α} {seen : List α}

/-- The count tells the records that were seen from those that are still to come. -/
theorem HasSeen.splits (h : c.HasSeen seen) {records : List α}
    (hRecords : records = seen ++ c.pending) :
    c.scanned ≤ records.length ∧ records.take c.scanned = seen ∧
      records.drop c.scanned = c.pending := by
  rw [hRecords, h.scanned]
  refine ⟨?_, List.take_left, List.drop_left⟩
  rw [List.length_append]
  exact Nat.le_add_right _ _

theorem HasSeen.matched_le (h : c.HasSeen seen) : c.matched ≤ c.scanned := by
  rw [h.scanned, h.matched]
  exact List.length_filter_le _ _

theorem filter_rejected {records : List α} (h : ∀ r ∈ records, c.accepts r = false) :
    records.filter c.accepts = [] := by
  rw [List.filter_eq_nil_iff]
  intro r hMem
  simp [h r hMem]

/-- The records that a step passes over are seen, and the others are still to come. -/
theorem HasSeen.next (h : c.HasSeen seen) :
    ∃ passed, c.pending = passed ++ c.next.2.pending ∧ c.next.2.HasSeen (seen ++ passed) := by
  rcases c.next_cases with ⟨skipped, record, rest, hPending, hSkipped, hAccepts, hNext⟩ |
    ⟨hRejects, hNext⟩
  · rw [hNext, hPending]
    refine ⟨skipped ++ [record], by simp, ?_, ?_⟩
    · simp [h.scanned]
    · have hFound : (skipped ++ [record]).filter c.accepts = [record] := by
        rw [List.filter_append, filter_rejected hSkipped]
        simp [hAccepts]
      show c.matched + 1 = ((seen ++ (skipped ++ [record])).filter c.accepts).length
      rw [List.filter_append, hFound, List.length_append, h.matched]
      rfl
  · rw [hNext]
    refine ⟨c.pending, by simp, ?_, ?_⟩
    · simp [h.scanned]
    · show c.matched = ((seen ++ c.pending).filter c.accepts).length
      rw [List.filter_append, filter_rejected hRejects, List.append_nil, h.matched]

theorem HasSeen.drain (h : c.HasSeen seen) : c.drain.2.HasSeen (seen ++ c.pending) := by
  refine ⟨?_, ?_⟩
  · show c.scanned + c.pending.length = _
    rw [h.scanned, List.length_append]
  · show c.matched + (c.pending.filter c.accepts).length
      = ((seen ++ c.pending).filter c.accepts).length
    rw [h.matched, List.filter_append, List.length_append]

/-! ## A number of steps -/

/-- What a number of steps give, one result for each, and the cursor after them. -/
def steps (c : Cursor α) : ℕ → List (Option α) × Cursor α
  | 0 => ([], c)
  | k + 1 => ((c.steps k).1 ++ [(c.steps k).2.next.1], (c.steps k).2.next.2)

theorem accepts_next (c : Cursor α) : c.next.2.accepts = c.accepts := by
  rcases c.next_cases with ⟨_, _, _, -, -, -, hNext⟩ | ⟨-, hNext⟩
  all_goals
    rw [hNext]
    rfl

theorem accepts_steps (c : Cursor α) (k : ℕ) : (c.steps k).2.accepts = c.accepts := by
  induction k with
  | zero => rfl
  | succ k ih => exact (accepts_next _).trans ih

/-- A step gives the first of the accepted records, and leaves the others. -/
theorem next_filter (c : Cursor α) :
    c.next.1 = (c.pending.filter c.accepts).head? ∧
      c.next.2.pending.filter c.accepts = (c.pending.filter c.accepts).tail := by
  rcases c.next_cases with ⟨skipped, record, rest, hPending, hSkipped, hAccepts, hNext⟩ |
    ⟨hRejects, hNext⟩
  · rw [hNext, hPending, List.filter_append, filter_rejected hSkipped,
      List.filter_cons_of_pos hAccepts]
    exact ⟨rfl, rfl⟩
  · rw [hNext, filter_rejected hRejects]
    exact ⟨rfl, rfl⟩

/-- Each step gives the accepted record of its number, if there are as many. -/
theorem steps_filter (c : Cursor α) (k : ℕ) :
    (c.steps k).1 = (List.range k).map (fun i => (c.pending.filter c.accepts)[i]?) ∧
      (c.steps k).2.pending.filter c.accepts = (c.pending.filter c.accepts).drop k := by
  induction k with
  | zero => exact ⟨rfl, rfl⟩
  | succ k ih =>
    obtain ⟨hFirst, hOthers⟩ := (c.steps k).2.next_filter
    rw [accepts_steps, ih.2] at hFirst hOthers
    constructor
    · rw [List.range_succ, List.map_append, ← ih.1, List.map_singleton, ← List.head?_drop, ← hFirst]
      rfl
    · rw [← List.tail_drop, ← hOthers]
      rfl

/-- The records that a cursor has seen after a number of steps. -/
theorem HasSeen.steps (h : c.HasSeen seen) (k : ℕ) :
    ∃ passed, c.pending = passed ++ (c.steps k).2.pending ∧
      (c.steps k).2.HasSeen (seen ++ passed) := by
  induction k with
  | zero =>
    rw [← List.append_nil seen] at h
    exact ⟨[], rfl, h⟩
  | succ k ih =>
    obtain ⟨passed, hPending, hSeen⟩ := ih
    obtain ⟨passed', hPending', hSeen'⟩ := hSeen.next
    rw [List.append_assoc] at hSeen'
    refine ⟨passed ++ passed', ?_, hSeen'⟩
    rw [hPending, hPending', List.append_assoc]
    rfl

/-- Among what is passed in a number of steps are as many of the accepted records. -/
theorem filter_passed (c : Cursor α) {k : ℕ} {passed : List α}
    (h : c.pending = passed ++ (c.steps k).2.pending) :
    passed.filter c.accepts = (c.pending.filter c.accepts).take k := by
  have hWhole : passed.filter c.accepts ++ (c.steps k).2.pending.filter c.accepts
      = (c.pending.filter c.accepts).take k ++ (c.steps k).2.pending.filter c.accepts := by
    rw [← List.filter_append, ← h, (c.steps_filter k).2, List.take_append_drop]
  exact List.append_cancel_right hWhole

/-- A step that gives a record stops right after it. -/
theorem HasSeen.next_some (h : c.HasSeen seen) {record : α} (hNext : c.next.1 = some record) :
    ∃ before, seen ++ c.pending = before ++ record :: c.next.2.pending ∧
      c.next.2.scanned = before.length + 1 := by
  rcases c.next_cases with ⟨skipped, record', rest, hPending, -, -, hStep⟩ | ⟨-, hStep⟩
  · rw [hStep] at hNext ⊢
    obtain rfl := Option.some.inj hNext
    refine ⟨seen ++ skipped, by rw [hPending, List.append_assoc], ?_⟩
    show c.scanned + (skipped.length + 1) = _
    rw [h.scanned, List.length_append, Nat.add_assoc]
  · rw [hStep] at hNext
    exact nomatch hNext

theorem HasSeen.steps_getLast? (h : c.HasSeen seen) {k : ℕ} {record : α}
    (hLast : (c.steps k).1.getLast? = some (some record)) :
    ∃ before, seen ++ c.pending = before ++ record :: (c.steps k).2.pending ∧
      (c.steps k).2.scanned = before.length + 1 := by
  cases k with
  | zero => exact nomatch hLast
  | succ k =>
    obtain ⟨passed, hPending, hSeen⟩ := h.steps k
    have hNext : (c.steps k).2.next.1 = some record := by
      simpa only [Cursor.steps, List.getLast?_concat, Option.some_inj] using hLast
    obtain ⟨before, hSplit, hScanned⟩ := hSeen.next_some hNext
    refine ⟨before, ?_, hScanned⟩
    rw [hPending, ← List.append_assoc]
    exact hSplit

/-- A step that gives nothing has gone to the end, where all further steps stay. -/
theorem pending_of_none_mem (c : Cursor α) {k : ℕ} (h : none ∈ (c.steps k).1) :
    (c.steps k).2.pending = [] := by
  induction k with
  | zero => exact nomatch h
  | succ k ih =>
    show (c.steps k).2.next.2.pending = []
    rcases (c.steps k).2.next_cases with ⟨skipped, record, rest, hPending, -, -, hNext⟩ | ⟨-, hNext⟩
    · rcases List.mem_append.1 h with h | h
      · rw [ih h] at hPending
        exact absurd hPending (by simp)
      · rw [hNext] at h
        exact absurd h (by simp)
    · rw [hNext]

end

/-! ## A cursor is an exact filter of its source -/

theorem reduceOption_getElem? (records : List α) (k : ℕ) :
    ((List.range k).map fun i => records[i]?).reduceOption = records.take k := by
  induction k with
  | zero => rfl
  | succ k ih =>
    rw [List.range_succ, List.map_append, List.reduceOption_append, ih, List.take_add_one]
    rfl

/-- A number lies between two bounds, of which the upper one may be missing. -/
def Encloses (bounds : ℕ × Option ℕ) (n : ℕ) : Prop :=
  bounds.1 ≤ n ∧ ∀ high ∈ bounds.2, n ≤ high

/-- The state of a cursor over records after a number of steps and their results. -/
structure IsExact (records : List α) (accepts : α → Bool) (k : ℕ) (results : List (Option α))
    (c : Cursor α) : Prop where
  /-- Each step gives the accepted record of its number, if there are as many. -/
  results_eq : results = (List.range k).map fun i => (records.filter accepts)[i]?
  /-- The records that are given are the first ones that are accepted, in their order. -/
  given : results.reduceOption = (records.filter accepts).take k
  /-- The records that are not counted yet are still in the source. -/
  pending : c.scanned ≤ records.length ∧ c.pending = records.drop c.scanned
  /-- Without a step nothing is taken from the source. -/
  scanned_start : k = 0 → c.scanned = 0
  /-- After a step that gives a record, the count is the place of that record. -/
  scanned_some : ∀ record, results.getLast? = some (some record) →
    ∃ before, records = before ++ record :: c.pending ∧ c.scanned = before.length + 1
  /-- After a step that gives nothing, the whole source is counted. -/
  scanned_none : none ∈ results → c.scanned = records.length
  /-- As many records match as are given. -/
  matched_given : c.matched = results.reduceOption.length
  /-- As many records match as are accepted among those that are counted. -/
  matched_scanned : c.matched = ((records.take c.scanned).filter accepts).length
  /-- Bounds for what the source has left give bounds for the records that are still to come. -/
  bounds : ∀ left : ℕ × Option ℕ, Encloses left c.pending.length →
    Encloses (boundsOf left) ((records.filter accepts).drop k).length
  /-- So do the bounds of a cursor that knows how many records it has left. -/
  sizeHint : Encloses (c.sizeHint.1, some c.sizeHint.2) ((records.filter accepts).drop k).length

theorem encloses_boundsOf {left : ℕ × Option ℕ} {records : List α} {accepts : α → Bool}
    (h : Encloses left records.length) :
    Encloses (boundsOf left) (records.filter accepts).length := by
  refine ⟨Nat.zero_le _, ?_⟩
  intro high hHigh
  exact Nat.le_trans (List.length_filter_le _ _) (h.2 high hHigh)

/-- After any number of steps a cursor has given exactly the first records that its filter accepts,
    has counted exactly the records that it had to look at, and tells bounds for those to come. -/
theorem isExact_steps [Relate] (f : Filter) (view : α → RecordView) (records : List α) (k : ℕ) :
    IsExact records (fun record => f.accepts (view record)) k
      ((start f view records).steps k).1 ((start f view records).steps k).2 := by
  let accepts : α → Bool := fun record => f.accepts (view record)
  let results := ((start f view records).steps k).1
  let c := ((start f view records).steps k).2
  have hStart := hasSeen_start f view records
  have hAccepts : c.accepts = accepts := accepts_steps _ k
  obtain ⟨passed, hRecords, hSeen⟩ : ∃ passed, records = passed ++ c.pending ∧ c.HasSeen passed :=
    hStart.steps k
  obtain ⟨hLe, hTake, hDrop⟩ := hSeen.splits hRecords
  have hToCome : c.pending.filter accepts = (records.filter accepts).drop k :=
    (steps_filter (start f view records) k).2
  have hGiven : results.reduceOption = (records.filter accepts).take k := by
    rw [← reduceOption_getElem?]
    exact congrArg _ (steps_filter _ k).1
  have hPassed : passed.filter accepts = (records.filter accepts).take k :=
    filter_passed (start f view records) hRecords
  have hMatched : c.matched = (passed.filter accepts).length := by
    rw [hSeen.matched, hAccepts]
  exact {
    results_eq := (steps_filter _ k).1
    given := hGiven
    pending := ⟨hLe, hDrop.symm⟩
    scanned_start := by
      rintro rfl
      rfl
    scanned_some := fun record hLast => hStart.steps_getLast? hLast
    scanned_none := by
      intro hMem
      rw [hSeen.scanned, hRecords, pending_of_none_mem _ hMem, List.append_nil]
    matched_given := by rw [hMatched, hPassed, ← hGiven]
    matched_scanned := by rw [hTake, hMatched]
    bounds := by
      intro left h
      rw [← hToCome]
      exact encloses_boundsOf h
    sizeHint := by
      have hLeft : Encloses (c.pending.length, some c.pending.length) c.pending.length := by
        simp [Encloses]
      rw [← hToCome]
      exact encloses_boundsOf hLeft }

end GeoFilter.Cursor
