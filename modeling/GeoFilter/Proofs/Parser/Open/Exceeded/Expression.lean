import GeoFilter.Proofs.Parser.Open.Basic
import GeoFilter.Proofs.Parser.Soundness.Expression
import GeoFilter.Proofs.Parser.Threshold.Expression

set_option autoImplicit false

/-! # An expression reaches the limit only where enough is open

A parsing function that fails at the limit has read the beginning of its part up to a token where
more charged constructs are open than its budget has levels. The theorems call one another as the
functions do. What was read before is in the grammar, because the functions that read it
succeeded. -/

namespace GeoFilter.Cql

open Grammar

variable {α β : Type} {scope : Scope}

/-! ## The place where the limit is reached -/

/-- Some of the tokens leave constructs open that take more than `b` levels. -/
def Exceeds (b : Nat) (ts : List Token) (P : List Construct → List TokenKind → Prop) : Prop :=
  ∃ cs u rest, b < charged cs ∧ ts = u ++ rest ∧ P cs (u.map Token.kind)

namespace Exceeds

variable {b : Nat} {ts mid : List Token} {P Q : List Construct → List TokenKind → Prop}
  {R : Nat → List TokenKind → Prop} {t t' : Token}

theorem imp (h : Exceeds b ts P) (hPQ : ∀ cs u, P cs u → Q cs u) : Exceeds b ts Q := by
  obtain ⟨cs, u, rest, hb, rfl, hu⟩ := h
  exact ⟨cs, u, rest, hb, rfl, hPQ cs _ hu⟩

/-- A construct that is entered at the limit. -/
theorem enter {c : Construct} (hc : charged [c] = 1) (h : P [c] [t.kind]) :
    Exceeds 0 (t :: ts) P := by
  refine ⟨[c], [t], ts, ?_, rfl, h⟩
  rw [hc]
  exact Nat.zero_lt_one

/-- A token that opens a construct around the place. -/
theorem nest {c : Construct} (hc : ∀ cs, charged (c :: cs) = charged cs + 1)
    (h : Exceeds b ts P) (hPQ : ∀ cs u, P cs u → Q (c :: cs) (t.kind :: u)) :
    Exceeds (b + 1) (t :: ts) Q := by
  obtain ⟨cs, u, rest, hb, rfl, hu⟩ := h
  refine ⟨c :: cs, t :: u, rest, ?_, rfl, hPQ cs _ hu⟩
  rw [hc]
  exact Nat.succ_lt_succ hb

/-- A token before the place. -/
theorem cons (h : Exceeds b ts P) (hPQ : ∀ cs u, P cs u → Q cs (t.kind :: u)) :
    Exceeds b (t :: ts) Q := by
  obtain ⟨cs, u, rest, hb, rfl, hu⟩ := h
  exact ⟨cs, t :: u, rest, hb, rfl, hPQ cs _ hu⟩

/-- What was read before the place, and a token after it. -/
theorem join (hLeft : Reads b ts (t :: mid) R) (h : Exceeds b mid P)
    (hQ : ∀ d cs u v, R d u → P cs v → Q cs (u ++ t.kind :: v)) : Exceeds b ts Q := by
  obtain ⟨d, u, -, rfl, hu⟩ := hLeft
  obtain ⟨cs, v, rest, hb, rfl, hv⟩ := h
  refine ⟨cs, u ++ t :: v, rest, hb, by simp, ?_⟩
  rw [List.map_append, List.map_cons]
  exact hQ d cs _ _ hu hv

/-- Two tokens before the place. -/
theorem consTwo (h : Exceeds b ts P) (hPQ : ∀ cs u, P cs u → Q cs (t.kind :: t'.kind :: u)) :
    Exceeds b (t :: t' :: ts) Q := by
  have hSecond : Exceeds b (t' :: ts) fun cs u => ∃ v, u = t'.kind :: v ∧ P cs v :=
    h.cons fun cs v hv => ⟨v, rfl, hv⟩
  refine hSecond.cons ?_
  intro cs u hu
  obtain ⟨v, rfl, hv⟩ := hu
  exact hPQ cs v hv

/-- What was read before the place, and two tokens after it. -/
theorem joinTwo (hLeft : Reads b ts (t :: t' :: mid) R) (h : Exceeds b mid P)
    (hQ : ∀ d cs u v, R d u → P cs v → Q cs (u ++ t.kind :: t'.kind :: v)) :
    Exceeds b ts Q := by
  have hSecond : Exceeds b (t' :: mid) fun cs u => ∃ v, u = t'.kind :: v ∧ P cs v :=
    h.cons fun cs v hv => ⟨v, rfl, hv⟩
  refine .join hLeft hSecond ?_
  intro d cs u v hu hv
  obtain ⟨v, rfl, hv⟩ := hv
  exact hQ d cs u v hu hv

/-- The name and the parenthesis of a call, which open its arguments and take no level. -/
theorem call (h : Exceeds b ts P)
    (hPQ : ∀ cs u, P cs u → Q (.arguments :: cs) (t.kind :: t'.kind :: u)) :
    Exceeds b (t :: t' :: ts) Q := by
  obtain ⟨cs, u, rest, hb, rfl, hu⟩ := h
  exact ⟨.arguments :: cs, t :: t' :: u, rest, hb, rfl, hPQ cs _ hu⟩

end Exceeds

/-! ## Expected tokens -/

/-- A token that the parser expects is not a matter of the limit. -/
theorem ReachesLimit.of_expect {test : Token → Bool} {expected : Expectation} {ts : List Token}
    {next : Token × List Token → Except SyntaxError α}
    (h : ReachesLimit scope ((expect scope test expected ts).outcome >>= next)) :
    ∃ t rest, ts = t :: rest ∧ test t ∧ ReachesLimit scope (next (t, rest)) := by
  rcases h.of_bind with hStep | ⟨⟨t, rest⟩, hStep, hNext⟩
  · exact absurd hStep (unlimited_expect scope test expected ts).not_reachesLimit
  · obtain ⟨rfl, ht⟩ := expect_eq_ok.1 hStep
    exact ⟨t, rest, rfl, ht, hNext⟩

/-! ## Expressions -/

mutual

theorem parseSum_exceeds {b : Nat} {ts : List Token}
    (h : ReachesLimit scope (parseSum scope b ts).outcome) : Exceeds b ts (Opens .sum) := by
  rw [outcome_parseSum] at h
  rcases h.of_bind with hFails | ⟨⟨operand, r⟩, hOperand, h⟩
  · exact (parseOperand_exceeds hFails).imp fun _ _ h => .term (.factor h)
  · have hShort := outcome_shorter hOperand
    have hFirst := (parseOperand_sound hOperand).imp fun _ _ => Arithmetic.factor
    dsimp only at h
    rcases h.of_bind with hFails | ⟨⟨product, r'⟩, hProduct, h⟩
    · exact (parseFactors_exceeds hFails hFirst).imp fun _ _ => Opens.term
    · have hShort' : r'.length < r.length + 1 := outcome_shorter hProduct
      exact parseTerms_exceeds h ((parseFactors_sound hProduct hFirst).imp fun _ _ => .term)
  termination_by ts.length * 4 + 2
  decreasing_by all_goals omega

theorem parseTerms_exceeds {b : Nat} {all ts : List Token} {left : Expression}
    (h : ReachesLimit scope (parseTerms scope b left ts).outcome)
    (hLeft : Reads b all ts (Arithmetic .sum · · left)) : Exceeds b all (Opens .sum) := by
  rw [outcome_parseTerms] at h
  cases hts : ts with
  | nil =>
    rw [hts] at h
    exact absurd h (not_reachesLimit_ok _)
  | cons t after =>
    have hLength : ts.length = after.length + 1 := by rw [hts, List.length_cons]
    rw [hts] at h hLeft
    dsimp only at h
    split at h
    · next op hKind =>
      split at h
      · exact absurd h (not_reachesLimit_ok _)
      · next hLoose =>
        have hTerms : ∀ d cs u v, Arithmetic .sum d u left → Opens .product cs v →
            Opens .sum cs (u ++ t.kind :: v) := by
          intro d cs u v hu hv
          rw [hKind]
          exact .terms hu (loose_of_not_tight hLoose) hv
        rcases h.of_bind with hFails | ⟨⟨operand, r⟩, hOperand, h⟩
        · exact .join hLeft ((parseOperand_exceeds hFails).imp fun _ _ => .factor) hTerms
        · have hShort := outcome_shorter hOperand
          have hFirst := (parseOperand_sound hOperand).imp fun _ _ => Arithmetic.factor
          dsimp only at h
          rcases h.of_bind with hFails | ⟨⟨right, r'⟩, hRight, h⟩
          · exact .join hLeft (parseFactors_exceeds hFails hFirst) hTerms
          · have hShort' : r'.length < r.length + 1 := outcome_shorter hRight
            refine parseTerms_exceeds h (hLeft.join (parseFactors_sound hRight hFirst) ?_)
            intro d d' u v hu hv
            rw [hKind]
            exact .terms hu (loose_of_not_tight hLoose) hv
    · exact absurd h (not_reachesLimit_ok _)
  termination_by ts.length * 4
  decreasing_by all_goals omega

theorem parseFactors_exceeds {b : Nat} {all ts : List Token} {left : Expression}
    (h : ReachesLimit scope (parseFactors scope b left ts).outcome)
    (hLeft : Reads b all ts (Arithmetic .product · · left)) :
    Exceeds b all (Opens .product) := by
  rw [outcome_parseFactors] at h
  cases hts : ts with
  | nil =>
    rw [hts] at h
    exact absurd h (not_reachesLimit_ok _)
  | cons t after =>
    have hLength : ts.length = after.length + 1 := by rw [hts, List.length_cons]
    rw [hts] at h hLeft
    dsimp only at h
    split at h
    · next op hKind =>
      split at h
      · next hTight =>
        rcases h.of_bind with hFails | ⟨⟨right, r⟩, hRight, h⟩
        · refine .join hLeft (parseOperand_exceeds hFails) ?_
          intro d cs u v hu hv
          rw [hKind]
          exact .factors hu (tight_of_bindsTightly hTight) hv
        · have hShort := outcome_shorter hRight
          refine parseFactors_exceeds h (hLeft.join (parseOperand_sound hRight) ?_)
          intro d d' u v hu hv
          rw [hKind]
          exact .factors hu (tight_of_bindsTightly hTight) hv
      · exact absurd h (not_reachesLimit_ok _)
    · exact absurd h (not_reachesLimit_ok _)
  termination_by ts.length * 4
  decreasing_by all_goals omega

theorem parseOperand_exceeds {b : Nat} {ts : List Token}
    (h : ReachesLimit scope (parseOperand scope b ts).outcome) :
    Exceeds b ts (Opens .operand) := by
  rw [outcome_parseOperand] at h
  cases hts : ts with
  | nil =>
    rw [hts] at h
    exact absurd h (not_reachesLimit_unexpected .expression [])
  | cons t after =>
    have hLength : ts.length = after.length + 1 := by rw [hts, List.length_cons]
    rw [hts] at h
    dsimp only at h
    split at h
    · next hKind =>
      cases b with
      | zero => exact .enter (c := .minus) rfl (hKind ▸ .minus .start)
      | succ b =>
        have hFails := h.of_first fun _ => unlimited_ok _
        refine (parseOperand_exceeds hFails).nest (c := .minus) (fun _ => rfl) ?_
        intro cs u hu
        rw [hKind]
        exact .minus hu
    · exact parsePrimary_exceeds h
  termination_by ts.length * 4 + 1
  decreasing_by all_goals omega

theorem parsePrimary_exceeds {b : Nat} {t : Token} {ts : List Token}
    (h : ReachesLimit scope (parsePrimary scope b t ts).outcome) :
    Exceeds b (t :: ts) (Opens .operand) := by
  rw [outcome_parsePrimary] at h
  split at h
  · exact absurd h (not_reachesLimit_ok _)
  · exact absurd h (not_reachesLimit_ok _)
  · exact absurd h (not_reachesLimit_ok _)
  · exact absurd h (not_reachesLimit_ok _)
  · exact absurd h (not_reachesLimit_ok _)
  · next source _ =>
    have hLiteral := h.of_first fun _ => unlimited_ok _
    exact absurd hLiteral (unlimited_geometryLiteral t source).not_reachesLimit
  · exact absurd h (not_reachesLimit_ok _)
  · next name hKind =>
    cases hts : ts with
    | nil =>
      rw [hts] at h
      exact absurd h (not_reachesLimit_ok _)
    | cons opened after =>
      have hLength : ts.length = after.length + 1 := by rw [hts, List.length_cons]
      rw [hts] at h
      dsimp only at h
      split at h
      · next hOpening =>
        split at h
        · next hName =>
          rcases h.of_bind with hFails | ⟨⟨arguments, r⟩, -, h⟩
          · refine (parseArguments_exceeds hFails).call ?_
            intro cs u hu
            rw [hKind, Token.isOpening_iff.1 hOpening]
            exact .arguments hName hu
          · dsimp only at h
            split at h
            · exact absurd h (not_reachesLimit_ok _)
            · refine absurd h (Unlimited.not_reachesLimit ?_)
              exact unlimited_error fun limit h => Cause.noConfusion h
        · exact absurd h (unlimited_notAValue t name).not_reachesLimit
      · exact absurd h (not_reachesLimit_ok _)
  · next hKind =>
    cases b with
    | zero => exact .enter (c := .group) rfl (hKind ▸ .enclosed (.term (.factor .start)))
    | succ b =>
      have hFails := h.of_first fun (_, rest) =>
        (unlimited_expectClosing scope t rest).bind fun _ => unlimited_ok _
      refine (parseSum_exceeds hFails).nest (c := .group) (fun _ => rfl) ?_
      intro cs u hu
      rw [hKind]
      exact .enclosed hu
  · exact absurd h (not_reachesLimit_unexpected .expression (t :: ts))
  termination_by (ts.length + 1) * 4
  decreasing_by all_goals omega

theorem parseArguments_exceeds {b : Nat} {opened : Token} {ts : List Token}
    (h : ReachesLimit scope (parseArguments scope b opened ts).outcome) :
    Exceeds b ts (Opens .items) := by
  rw [outcome_parseArguments] at h
  cases hts : ts with
  | nil =>
    rw [hts] at h
    exact absurd h (not_reachesLimit_unexpected .expression [])
  | cons t after =>
    have hLength : ts.length = after.length + 1 := by rw [hts, List.length_cons]
    rw [hts] at h
    dsimp only at h
    split at h
    · exact absurd h (not_reachesLimit_ok _)
    · exact parseItems_exceeds (h.of_first fun (_, rest) =>
        (unlimited_expectClosing scope opened rest).bind fun _ => unlimited_ok _)
  termination_by ts.length * 4 + 4
  decreasing_by all_goals simp only [List.length_cons] at *; omega

theorem parseItems_exceeds {b : Nat} {ts : List Token}
    (h : ReachesLimit scope (parseItems scope b ts).outcome) : Exceeds b ts (Opens .items) := by
  rw [outcome_parseItems] at h
  cases hts : ts with
  | nil =>
    rw [hts] at h
    exact absurd h (not_reachesLimit_unexpected .expression [])
  | cons t after =>
    have hLength : ts.length = after.length + 1 := by rw [hts, List.length_cons]
    rw [hts] at h
    dsimp only at h
    rcases h.of_bind with hFails | ⟨⟨value, r⟩, hValue, h⟩
    · exact (parseSum_exceeds hFails).imp fun _ _ => Opens.item
    · have hShort := outcome_shorter hValue
      have hFirst := parseSum_sound hValue
      cases hr : r with
      | nil =>
        rw [hr] at h
        exact absurd h (not_reachesLimit_ok _)
      | cons separator more =>
        have hMore : r.length = more.length + 1 := by rw [hr, List.length_cons]
        rw [hr] at h hFirst
        dsimp only at h
        split at h
        · next hComma =>
          have hFails := h.of_first fun _ => unlimited_ok _
          refine .join hFirst (parseItems_exceeds hFails) ?_
          intro d cs u v hu hv
          rw [Token.isComma_iff.1 hComma]
          exact .items hu hv
        · exact absurd h (not_reachesLimit_ok _)
  termination_by ts.length * 4 + 3
  decreasing_by all_goals simp only [List.length_cons] at *; omega

end

end GeoFilter.Cql
