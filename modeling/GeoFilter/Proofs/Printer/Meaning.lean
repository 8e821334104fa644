import GeoFilter.Proofs.Equality
import GeoFilter.Proofs.Printer.Filter

set_option autoImplicit false

/-! # Printed combinations keep their meaning

A combination may have no operand or a single one, and a NOT may have several. The text of such a
combination denotes another filter: INCLUDE or EXCLUDE for no operands, the operand itself for a
single one, and NOT with an AND inside it for several. What is read is then not the filter that was
printed, but it accepts the same records, at whatever depth such combinations stand. The signs of
zeros are not printed, so nothing may depend on them. -/

namespace GeoFilter

open Cql Cql.Grammar

namespace Filter

/-- Printable tests, put together by AND, OR and NOT with any number of operands. -/
inductive Writable : Filter → Prop where
  | test {f : Filter} (h : f.Printable) : Writable f
  | combination (op : LogicOp) {fs : List Filter} (h : ∀ f ∈ fs, Writable f) :
      Writable (logic op fs)

/-- The text of the filter yields tokens that denote a filter which accepts the same records. -/
def KeepsMeaning (f : Filter) : Prop :=
  ∃ ks d f', Yields f.cqlChars ks ∧ Sentence .negation d ks f' ∧ f'.SameAnswers f

theorem Printable.keepsMeaning {f : Filter} (h : f.Printable) : f.KeepsMeaning := by
  obtain ⟨ks, f', hYields, hSentence, hSame⟩ := h.reads_back
  exact ⟨ks, f.nesting, f', hYields, hSentence, sameAnswers_of_same hSame⟩

/-! ## The texts of combinations -/

/-- The text of NOT is that of AND after the word, however many operands there are. -/
theorem logicChars_not (parts : List (List Char)) :
    logicChars .not parts = "NOT".toList ++ ' ' :: logicChars .and parts := by
  rcases parts with _ | ⟨part, _ | ⟨next, parts⟩⟩
  · rfl
  · rfl
  · rfl

/-! ## Combinations -/

variable {fs : List Filter}

theorem map_accepts_of_forall₂ [Relate] (hSigns : Relate.IgnoresZeroSigns) {fs' : List Filter}
    (h : List.Forall₂ SameAnswers fs' fs) (record : RecordView) :
    fs'.map (·.accepts record) = fs.map (·.accepts record) := by
  induction h with
  | nil => rfl
  | cons hFirst _ ih => rw [List.map_cons, List.map_cons, hFirst hSigns record, ih]

/-- Operands with a connective between them denote filters that accept the same records one by
    one. `P` is the list that the connective makes: the operands of AND, or those of OR. -/
theorem operands_keep_meaning (word : Keyword) {P : ℕ → List TokenKind → List Filter → Prop}
    (hOne : ∀ {d u f}, Sentence .negation d u f → P d u [f])
    (hMore : ∀ {d d' u v f fs}, Sentence .negation d u f → P d' v fs →
      P (max d d') (u ++ .keyword word :: v) (f :: fs))
    (hNe : fs ≠ []) (h : ∀ f ∈ fs, f.KeepsMeaning) :
    ∃ ks d fs', Yields (joinWith (' ' :: (word.word.toList ++ [' '])) (operandChars fs)) ks ∧
      P d ks fs' ∧ List.Forall₂ SameAnswers fs' fs := by
  have hEach : ∀ f ∈ fs, ∃ u, Yields f.cqlChars u ∧ ∃ d f', Sentence .negation d u f' ∧
      f'.SameAnswers f := by
    intro f hMem
    obtain ⟨u, d, f', hYields, hRead⟩ := h f hMem
    exact ⟨u, hYields, d, f', hRead⟩
  have hRead := operands_yield word (P := fun fs ks => ∃ d fs', P d ks fs' ∧
    List.Forall₂ SameAnswers fs' fs) ?one ?more hNe hEach
  case one =>
    rintro f u ⟨d, f', hSentence, hSame⟩
    exact ⟨d, [f'], hOne hSentence, .cons hSame .nil⟩
  case more =>
    rintro f fs u v ⟨d, f', hFirst, hSame⟩ ⟨d', fs', hOthers, hSame'⟩
    exact ⟨max d d', f' :: fs', hMore hFirst hOthers, .cons hSame hSame'⟩
  obtain ⟨ks, hYields, d, fs', hOperands, hSame⟩ := hRead
  exact ⟨ks, d, fs', hYields, hOperands, hSame⟩

theorem conjunction_keeps_meaning (h : ∀ f ∈ fs, f.KeepsMeaning) :
    (logic .and fs).KeepsMeaning := by
  by_cases hNe : fs = []
  · subst hNe
    exact ⟨_, 0, .everything, yields_keyword .INCLUDE, .predicate .everything, fun _ _ => rfl⟩
  · obtain ⟨ks, d, fs', hYields, hOperands, hSame⟩ :=
      operands_keep_meaning .AND (P := Sentence .conjuncts) .conjunct .conjuncts hNe h
    have hSentence := Sentence.group (.disjunction (.alternative (.conjunction hOperands)))
    refine ⟨_, d + 1, _, ?_, .predicate hSentence, ?_⟩
    · show Yields (logicChars .and (operandChars fs)) _
      rw [logicChars_operands (by decide) (operandChars_ne_nil hNe)]
      exact hYields.enclosed
    · intro _ hSigns record
      have hEach := map_accepts_of_forall₂ hSigns hSame record
      exact (accepts_allOf record fs').trans (allAccept_of_map hEach)

theorem disjunction_keeps_meaning (h : ∀ f ∈ fs, f.KeepsMeaning) :
    (logic .or fs).KeepsMeaning := by
  by_cases hNe : fs = []
  · subst hNe
    exact ⟨_, 0, .nothing, yields_keyword .EXCLUDE, .predicate .nothing, fun _ _ => rfl⟩
  · obtain ⟨ks, d, fs', hYields, hOperands, hSame⟩ :=
      operands_keep_meaning .OR (P := Sentence .alternatives)
        (fun h => .alternative (.conjunction (.conjunct h)))
        (fun h h' => .alternatives (.conjunction (.conjunct h)) h') hNe h
    have hSentence := Sentence.group (.disjunction hOperands)
    refine ⟨_, d + 1, _, ?_, .predicate hSentence, ?_⟩
    · show Yields (logicChars .or (operandChars fs)) _
      rw [logicChars_operands (by decide) (operandChars_ne_nil hNe)]
      exact hYields.enclosed
    · intro _ hSigns record
      have hEach := map_accepts_of_forall₂ hSigns hSame record
      exact (accepts_anyOf record fs').trans (anyAccepts_of_map hEach)

/-- What NOT rejects is what the AND of its operands accepts, in the text as in the filter. -/
theorem negation_keeps_meaning (h : (logic .and fs).KeepsMeaning) :
    (logic .not fs).KeepsMeaning := by
  obtain ⟨ks, d, f', hYields, hSentence, hSame⟩ := h
  refine ⟨_, d + 1, _, ?_, .not hSentence, ?_⟩
  · show Yields (logicChars .not (operandChars fs)) _
    rw [logicChars_not]
    exact (yields_keyword .NOT).space hYields
  · intro _ hSigns record
    have hAll : f'.accepts record = allAccept record fs := hSame hSigns record
    simp [negate, accepts, allAccept, hAll]

/-- The text of every combination keeps its meaning, by induction on the combination. -/
theorem Writable.keepsMeaning {f : Filter} (h : f.Writable) : f.KeepsMeaning := by
  induction h with
  | test h => exact h.keepsMeaning
  | combination op _ ih =>
    cases op with
    | and => exact conjunction_keeps_meaning ih
    | or => exact disjunction_keeps_meaning ih
    | not => exact negation_keeps_meaning (conjunction_keeps_meaning ih)

end Filter

/-- Printable tests put together in any way are printed as text that is read, under every limit on
    nesting that is large enough, as a filter which accepts the same records. That holds for all
    ways to relate geometries that do not see the signs of zeros: the text of a box has none. -/
theorem parse_toCql_accepts {f : Filter} (h : f.Writable) :
    ∃ d f', (∀ m, d ≤ m → parse f.toCql m = .ok f') ∧
      ∀ [Relate], Relate.IgnoresZeroSigns →
        ∀ record, f'.accepts record = f.accepts record := by
  obtain ⟨ks, d, f', hYields, hSentence, hSame⟩ := h.keepsMeaning
  refine ⟨d, f', fun m hm => parse_of_sentence ?_ hSentence.whole hm, hSame⟩
  rw [Filter.toCql, String.toList_ofList]
  exact hYields.cuts

/-- A NOT of nothing, an AND of nothing and an OR of one, inside a NOT of several. -/
theorem parse_toCql_accepts_degenerate :
    let f : Filter := .logic .not [.logic .not [], .logic .or
      [.comparison .lt (.attr "a") (.literal (.number (-0)))], .logic .and [],
      .logic .and [.logic .or [], .ids [.text "1"]]]
    Relate.IgnoresZeroSigns ∧ ∃ d f', (∀ m, d ≤ m → parse f.toCql m = .ok f') ∧
      ∀ record, f'.accepts record = f.accepts record := by
  intro f
  have hNothing : ∀ op, (Filter.logic op []).Writable := fun op => .combination op (by simp)
  have hZero : (-0 : Float).isFinite = true := by decide
  have hWritable : f.Writable := by
    refine .combination .not ?_
    simp only [List.forall_mem_cons, List.not_mem_nil, false_imp_iff, implies_true, and_true]
    refine ⟨hNothing .not, .combination .or ?_, hNothing .and, .combination .and ?_⟩
    · simp only [List.forall_mem_cons, List.not_mem_nil, false_imp_iff, implies_true, and_true]
      exact .test (.comparison .lt trivial hZero)
    · simp only [List.forall_mem_cons, List.not_mem_nil, false_imp_iff, implies_true, and_true]
      exact ⟨hNothing .or, .test (.ids (by simp) (by simp [Value.Printable]))⟩
  obtain ⟨d, f', hParse, hAccepts⟩ := parse_toCql_accepts hWritable
  have hSigns := Relate.exact_ignoresZeroSigns
  exact ⟨hSigns, d, f', hParse, hAccepts hSigns⟩

end GeoFilter
