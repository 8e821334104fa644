import GeoFilter.Proofs.Parser.Outcome

set_option autoImplicit false

/-! # The budget for nesting

A parsing function looks at the levels that are left only where something nests, and fails there if
none is left. What it does otherwise has nothing to do with the limit. So what is proved about the
limit is put together from the laws of sequences and of nesting that stand here. -/

namespace GeoFilter.Cql

variable {α β : Type} {scope : Scope} {b d d' : Nat}

/-! ## Failing at the limit -/

/-- A step failed because nesting would go past the limit. -/
def ReachesLimit (scope : Scope) (step : Except SyntaxError α) : Prop :=
  ∃ e : SyntaxError, step = .error e ∧ e.cause = .depthExceeded scope.limit

theorem reachesLimit_tooDeep (scope : Scope) (ts : List Token) :
    ReachesLimit scope (.error (tooDeep scope ts) : Except SyntaxError α) := by
  refine ⟨_, rfl, ?_⟩
  cases ts <;> rfl

theorem ReachesLimit.bind {step : Except SyntaxError α} (h : ReachesLimit scope step)
    (next : α → Except SyntaxError β) : ReachesLimit scope (step >>= next) := by
  obtain ⟨e, rfl, he⟩ := h
  exact ⟨e, rfl, he⟩

/-- An outcome that no limit on nesting brought about. -/
def Unlimited (r : Except SyntaxError α) : Prop :=
  ∀ e, r = .error e → ∀ limit, e.cause ≠ .depthExceeded limit

theorem unlimited_ok (a : α) : Unlimited (.ok a) := fun _ h => nomatch h

theorem unlimited_error {e : SyntaxError} (h : ∀ limit, e.cause ≠ .depthExceeded limit) :
    Unlimited (.error e : Except SyntaxError α) := by
  intro e' he
  obtain rfl := Except.error.inj he
  exact h

theorem unlimited_unexpected (scope : Scope) (expected : Expectation) (ts : List Token) :
    Unlimited (.error (unexpected scope expected ts) : Except SyntaxError α) := by
  refine unlimited_error ?_
  cases ts with
  | nil => exact fun limit h => Cause.noConfusion h
  | cons t ts => exact fun limit h => Cause.noConfusion h

theorem Unlimited.bind {r : Except SyntaxError α} {next : α → Except SyntaxError β}
    (h : Unlimited r) (hNext : ∀ a, Unlimited (next a)) : Unlimited (r >>= next) := by
  cases r with
  | error e => exact unlimited_error fun limit => h e rfl limit
  | ok a => exact hNext a

theorem Unlimited.not_reachesLimit {r : Except SyntaxError α} (h : Unlimited r) :
    ¬ ReachesLimit scope r := by
  rintro ⟨e, he, hCause⟩
  exact h e he scope.limit hCause

theorem not_reachesLimit_ok (a : α) :
    ¬ ReachesLimit scope (.ok a : Except SyntaxError α) := (unlimited_ok a).not_reachesLimit

theorem not_reachesLimit_unexpected (expected : Expectation) (ts : List Token) :
    ¬ ReachesLimit scope (.error (unexpected scope expected ts) : Except SyntaxError α) :=
  (unlimited_unexpected scope expected ts).not_reachesLimit

/-- A sequence that fails at the limit does so in its first part, or in what follows it. -/
theorem ReachesLimit.of_bind {step : Except SyntaxError α} {next : α → Except SyntaxError β}
    (h : ReachesLimit scope (step >>= next)) :
    ReachesLimit scope step ∨ ∃ a, step = .ok a ∧ ReachesLimit scope (next a) := by
  cases step with
  | error e =>
    obtain ⟨e', he, hCause⟩ := h
    obtain rfl := Except.error.inj he
    exact .inl ⟨e, rfl, hCause⟩
  | ok a => exact .inr ⟨a, rfl, h⟩

/-- A sequence whose end does not reach the limit reaches it in its first part. -/
theorem ReachesLimit.of_first {step : Except SyntaxError α} {next : α → Except SyntaxError β}
    (h : ReachesLimit scope (step >>= next)) (hNext : ∀ a, Unlimited (next a)) :
    ReachesLimit scope step := by
  rcases h.of_bind with hStep | ⟨a, -, hEnd⟩
  · exact hStep
  · exact absurd hEnd (hNext a).not_reachesLimit

/-! ## What a budget affords -/

/-- A step that nests `d` levels deep comes down to `next` with a budget of `b` levels: it is the
    same if the budget suffices, and otherwise it fails at the limit. -/
structure Affords (scope : Scope) (b d : Nat) (step next : Except SyntaxError α) : Prop where
  within : d ≤ b → step = next
  beyond : b < d → ReachesLimit scope step

namespace Affords

variable {step mid next : Except SyntaxError α}

theorem of_eq (h : step = next) : Affords scope b 0 step next :=
  ⟨fun _ => h, fun hb => absurd hb (Nat.not_lt_zero b)⟩

theorem trans (h : Affords scope b d step mid) (h' : Affords scope b d' mid next) :
    Affords scope b (max d d') step next := by
  constructor
  · intro hb
    rw [h.within (by omega), h'.within (by omega)]
  · intro hb
    -- The budget fails at the first part or, past it, at the second: at the limit both times.
    by_cases hd : d ≤ b
    · rw [h.within hd]
      exact h'.beyond (by omega)
    · exact h.beyond (by omega)

theorem trans_eq (h : Affords scope b d step mid) (h' : mid = next) :
    Affords scope b d step next := h' ▸ h

theorem eq_trans (h : step = mid) (h' : Affords scope b d mid next) :
    Affords scope b d step next := h ▸ h'

theorem bind (h : Affords scope b d step mid) (next : α → Except SyntaxError β) :
    Affords scope b d (step >>= next) (mid >>= next) := by
  refine ⟨fun hb => ?_, fun hb => (h.beyond hb).bind next⟩
  rw [h.within hb]

/-- One more level is paid for by a budget of one more. -/
theorem succ (h : Affords scope b d step next) : Affords scope (b + 1) (d + 1) step next :=
  ⟨fun hb => h.within (Nat.le_of_succ_le_succ hb), fun hb => h.beyond (Nat.lt_of_succ_lt_succ hb)⟩

/-- What a step comes down to fails at the limit, so the step does with every budget. -/
theorem reachesLimit (h : Affords scope b d step next) (hNext : ReachesLimit scope next) :
    ReachesLimit scope step := by
  by_cases hd : d ≤ b
  · rwa [h.within hd]
  · exact h.beyond (Nat.lt_of_not_le hd)

/-- Without a budget nothing nests. -/
theorem zero (h : ReachesLimit scope step) : Affords scope 0 (d + 1) step next :=
  ⟨fun hb => absurd hb (Nat.not_succ_le_zero d), fun _ => h⟩

end Affords

/-! ## Thresholds -/

variable {stop n n' : Nat}

/-- A step, given by its limit and its budget, has a threshold of at most `n` levels: a budget of
    that many levels or more always leads to one and the same outcome, which is not that of a limit,
    and a smaller one fails at the limit. The text ends at byte `stop`. -/
def HasThreshold (stop n : Nat) (step : Scope → Nat → Except SyntaxError α) : Prop :=
  ∃ d r, d ≤ n ∧ Unlimited r ∧ ∀ limit b, Affords ⟨stop, limit⟩ b d (step ⟨stop, limit⟩ b) r

namespace HasThreshold

variable {step : Scope → Nat → Except SyntaxError α}

/-- A step that does not look at its budget. -/
theorem of_eq {r : Except SyntaxError α} (hr : Unlimited r)
    (h : ∀ limit b, step ⟨stop, limit⟩ b = r) : HasThreshold stop n step :=
  ⟨0, r, Nat.zero_le n, hr, fun limit b => .of_eq (h limit b)⟩

theorem ok (a : α) : HasThreshold stop n fun _ _ => .ok a :=
  .of_eq (unlimited_ok a) fun _ _ => rfl

theorem error {e : SyntaxError} (h : ∀ limit, e.cause ≠ .depthExceeded limit) :
    HasThreshold stop n fun _ _ => (.error e : Except SyntaxError α) :=
  .of_eq (unlimited_error h) fun _ _ => rfl

theorem unexpected (expected : Expectation) (ts : List Token) :
    HasThreshold stop n fun scope _ =>
      (.error (Cql.unexpected scope expected ts) : Except SyntaxError α) :=
  .of_eq (unlimited_unexpected ⟨stop, 0⟩ expected ts) fun _ _ => rfl

theorem congr {step' : Scope → Nat → Except SyntaxError α}
    (hEq : ∀ scope b, step scope b = step' scope b) (h : HasThreshold stop n step') :
    HasThreshold stop n step := by
  rwa [funext fun scope => funext (hEq scope)]

theorem mono (h : HasThreshold stop n step) (hn : n ≤ n') : HasThreshold stop n' step := by
  obtain ⟨d, r, hd, hr, hStep⟩ := h
  exact ⟨d, r, Nat.le_trans hd hn, hr, hStep⟩

/-- After a step that read something, what it read decides how the parser goes on. -/
theorem bind (h : HasThreshold stop n step) {next : Scope → Nat → α → Except SyntaxError β}
    (hNext : ∀ a, (∃ scope b, step scope b = .ok a) →
      HasThreshold stop n fun scope b => next scope b a) :
    HasThreshold stop n fun scope b => step scope b >>= next scope b := by
  obtain ⟨d, r, hd, hr, hStep⟩ := h
  cases r with
  | error e =>
    refine ⟨d, .error e, hd, ?_, fun limit b => (hStep limit b).bind (next ⟨stop, limit⟩ b)⟩
    exact unlimited_error fun limit => hr e rfl limit
  | ok a =>
    obtain ⟨d', r', hd', hr', hRest⟩ := hNext a ⟨_, d, (hStep 0 d).within (Nat.le_refl d)⟩
    refine ⟨max d d', r', Nat.max_le.2 ⟨hd, hd'⟩, hr', ?_⟩
    intro limit b
    exact ((hStep limit b).bind (next ⟨stop, limit⟩ b)).trans (hRest limit b)

/-- A step that only makes something else of what was read. -/
theorem map (h : HasThreshold stop n step) (f : α → β) :
    HasThreshold stop n fun scope b => step scope b >>= fun a => .ok (f a) :=
  h.bind fun a _ => .of_eq (unlimited_ok (f a)) fun _ _ => rfl

/-- Nesting takes a level of the budget, and fails if there is none. -/
theorem nest {inner : Scope → Nat → Except SyntaxError α} {ts : List Token}
    (h : HasThreshold stop n inner) (hZero : ∀ scope, step scope 0 = .error (tooDeep scope ts))
    (hSucc : ∀ scope b, step scope (b + 1) = inner scope b) : HasThreshold stop (n + 1) step := by
  obtain ⟨d, r, hd, hr, hInner⟩ := h
  refine ⟨d + 1, r, Nat.succ_le_succ hd, hr, ?_⟩
  intro limit b
  cases b with
  | zero =>
    rw [hZero]
    exact .zero (reachesLimit_tooDeep _ ts)
  | succ b =>
    rw [hSucc]
    exact (hInner limit b).succ

/-- A step that is taken with one level more than is left. -/
theorem shift (h : HasThreshold stop n step) :
    HasThreshold stop n fun scope b => step scope (b + 1) := by
  obtain ⟨d, r, hd, hr, hStep⟩ := h
  refine ⟨d - 1, r, by omega, hr, ?_⟩
  intro limit b
  exact ⟨fun hb => (hStep limit (b + 1)).within (by omega),
    fun hb => (hStep limit (b + 1)).beyond (by omega)⟩

end HasThreshold

end GeoFilter.Cql
