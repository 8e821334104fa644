import GeoFilter.Proofs.Composition
import GeoFilter.Proofs.Printer.Expression

set_option autoImplicit false

/-! # Printed filters are read back

Every printed filter is a predicate, or NOT with a predicate after it, so it can stand between
connectives; and the filter that its tokens denote is the filter again, down to the last literal.
The levels that the text takes are counted exactly, so the limit on nesting decides whether the
text is read. -/

namespace GeoFilter

open Cql Cql.Grammar

/-- The text of a filter yields tokens that denote an equal filter, with the levels counted. -/
def Filter.ReadsBack (f : Filter) : Prop :=
  ∃ ks f', Yields f.cqlChars ks ∧ Sentence .negation f.nesting ks f' ∧ f'.same f = true

/-! ## Combinations -/

theorem operandChars_ne_nil {fs : List Filter} (h : fs ≠ []) : Filter.operandChars fs ≠ [] := by
  cases fs with
  | nil => exact absurd rfl h
  | cons f fs => exact List.cons_ne_nil _ _

/-- The text of AND and OR with operands: parentheses around them, and the word between them. -/
theorem logicChars_operands {op : LogicOp} (hOp : op ≠ .not) {parts : List (List Char)}
    (h : parts ≠ []) :
    Filter.logicChars op parts
      = '(' :: (joinWith (' ' :: (op.word.toList ++ [' '])) parts ++ [')']) := by
  rcases parts with _ | ⟨part, _ | ⟨next, parts⟩⟩
  · exact absurd rfl h
  · cases op with
    | and | or => rfl
    | not => exact absurd rfl hOp
  · cases op with
    | and | or => rfl
    | not => exact absurd rfl hOp

theorem length_of_sameOperands {fs gs : List Filter} (h : Filter.sameOperands fs gs = true) :
    fs.length = gs.length := by
  induction fs generalizing gs with
  | nil =>
    cases gs with
    | nil => rfl
    | cons g gs => exact absurd h (by simp [Filter.sameOperands])
  | cons f fs ih =>
    cases gs with
    | nil => exact absurd h (by simp [Filter.sameOperands])
    | cons g gs =>
      simp only [Filter.sameOperands, Bool.and_eq_true] at h
      rw [List.length_cons, List.length_cons, ih h.2]

theorem Cql.Yields.connect {cs cs' : List Char} {ks ks' : List TokenKind} (word : Keyword)
    (h : Yields cs ks) (h' : Yields cs' ks') :
    Yields (cs ++ (' ' :: (word.word.toList ++ [' '])) ++ cs') (ks ++ .keyword word :: ks') := by
  have hJoined := h.space ((yields_keyword word).space h')
  simpa only [List.append_assoc, List.cons_append, List.nil_append] using hJoined

/-- Operands with a connective between them are cut one by one. `Q` is what the tokens of an operand
    are to it, and `P` what those of several are to the list. -/
theorem operands_yield (word : Keyword) {Q : Filter → List TokenKind → Prop}
    {P : List Filter → List TokenKind → Prop} (hOne : ∀ {f u}, Q f u → P [f] u)
    (hMore : ∀ {f fs u v}, Q f u → P fs v → P (f :: fs) (u ++ .keyword word :: v))
    {fs : List Filter} (hNe : fs ≠ []) (h : ∀ f ∈ fs, ∃ u, Yields f.cqlChars u ∧ Q f u) :
    ∃ ks, Yields (joinWith (' ' :: (word.word.toList ++ [' '])) (Filter.operandChars fs)) ks ∧
      P fs ks := by
  induction fs with
  | nil => exact absurd rfl hNe
  | cons f fs ih =>
    obtain ⟨u, hYields, hFirst⟩ := h f List.mem_cons_self
    by_cases hFs : fs = []
    · subst hFs
      exact ⟨u, hYields, hOne hFirst⟩
    · obtain ⟨v, hYields', hOthers⟩ := ih hFs fun g hMem => h g (List.mem_cons_of_mem f hMem)
      refine ⟨_, ?_, hMore hFirst hOthers⟩
      rw [Filter.operandChars, joinWith_cons (operandChars_ne_nil hFs)]
      exact hYields.connect word hYields'

/-- Operands with a connective between them are read one by one. `P` is the list that the
    connective makes: the operands of AND, or those of OR. -/
theorem operands_read_back (word : Keyword) {P : ℕ → List TokenKind → List Filter → Prop}
    (hOne : ∀ {d u f}, Sentence .negation d u f → P d u [f])
    (hMore : ∀ {d d' u v f fs}, Sentence .negation d u f → P d' v fs →
      P (max d d') (u ++ .keyword word :: v) (f :: fs))
    {fs : List Filter} (hNe : fs ≠ []) (h : ∀ f ∈ fs, f.ReadsBack) :
    ∃ ks fs', Yields (joinWith (' ' :: (word.word.toList ++ [' '])) (Filter.operandChars fs)) ks ∧
      P (Filter.nestingOfList fs) ks fs' ∧ Filter.sameOperands fs' fs = true := by
  have hEach : ∀ f ∈ fs, ∃ u, Yields f.cqlChars u ∧
      ∃ f', Sentence .negation f.nesting u f' ∧ f'.same f = true := by
    intro f hMem
    obtain ⟨u, f', hYields, hSentence, hSame⟩ := h f hMem
    exact ⟨u, hYields, f', hSentence, hSame⟩
  have hRead := operands_yield word (P := fun fs ks => ∃ fs', P (Filter.nestingOfList fs) ks fs' ∧
    Filter.sameOperands fs' fs = true) ?one ?more hNe hEach
  case one =>
    rintro f u ⟨f', hSentence, hSame⟩
    have hList := hOne hSentence
    -- A single operand counts its own levels and those of an empty list.
    rw [← Nat.max_zero f.nesting] at hList
    exact ⟨[f'], hList, by simp [Filter.sameOperands, hSame]⟩
  case more =>
    rintro f fs u v ⟨f', hFirst, hSame⟩ ⟨fs', hOthers, hSame'⟩
    exact ⟨f' :: fs', hMore hFirst hOthers, by simp [Filter.sameOperands, hSame, hSame']⟩
  obtain ⟨ks, hYields, fs', hOperands, hSame⟩ := hRead
  exact ⟨ks, fs', hYields, hOperands, hSame⟩

theorem allOf_of_length {fs : List Filter} (h : 2 ≤ fs.length) :
    Filter.allOf fs = .logic .and fs := by
  rcases fs with _ | ⟨f, _ | ⟨g, fs⟩⟩
  · exact absurd h (by decide)
  · exact absurd h (by simp)
  · rfl

theorem anyOf_of_length {fs : List Filter} (h : 2 ≤ fs.length) :
    Filter.anyOf fs = .logic .or fs := by
  rcases fs with _ | ⟨f, _ | ⟨g, fs⟩⟩
  · exact absurd h (by decide)
  · exact absurd h (by simp)
  · rfl

theorem conjunction_reads_back {fs : List Filter} (hLength : 2 ≤ fs.length)
    (h : ∀ f ∈ fs, f.ReadsBack) : (Filter.logic .and fs).ReadsBack := by
  have hNe : fs ≠ [] := by
    rintro rfl
    exact absurd hLength (by decide)
  obtain ⟨ks, fs', hYields, hOperands, hSame⟩ :=
    operands_read_back .AND (P := Sentence .conjuncts) .conjunct .conjuncts hNe h
  have hLength' : 2 ≤ fs'.length := by rwa [length_of_sameOperands hSame]
  have hSentence := Sentence.group (.disjunction (.alternative (.conjunction hOperands)))
  rw [allOf_of_length hLength'] at hSentence
  refine ⟨_, .logic .and fs', ?_, .predicate hSentence, by simp [Filter.same, hSame]⟩
  show Yields (Filter.logicChars .and (Filter.operandChars fs)) _
  rw [logicChars_operands (by decide) (operandChars_ne_nil hNe)]
  exact hYields.enclosed

theorem disjunction_reads_back {fs : List Filter} (hLength : 2 ≤ fs.length)
    (h : ∀ f ∈ fs, f.ReadsBack) : (Filter.logic .or fs).ReadsBack := by
  have hNe : fs ≠ [] := by
    rintro rfl
    exact absurd hLength (by decide)
  obtain ⟨ks, fs', hYields, hOperands, hSame⟩ :=
    operands_read_back .OR (P := Sentence .alternatives)
      (fun h => .alternative (.conjunction (.conjunct h)))
      (fun h h' => .alternatives (.conjunction (.conjunct h)) h') hNe h
  have hLength' : 2 ≤ fs'.length := by rwa [length_of_sameOperands hSame]
  have hSentence := Sentence.group (.disjunction hOperands)
  rw [anyOf_of_length hLength'] at hSentence
  refine ⟨_, .logic .or fs', ?_, .predicate hSentence, by simp [Filter.same, hSame]⟩
  show Yields (Filter.logicChars .or (Filter.operandChars fs)) _
  rw [logicChars_operands (by decide) (operandChars_ne_nil hNe)]
  exact hYields.enclosed

theorem negation_reads_back {f : Filter} (h : f.ReadsBack) : (Filter.logic .not [f]).ReadsBack := by
  obtain ⟨ks, f', hYields, hSentence, hSame⟩ := h
  refine ⟨_, .logic .not [f'], (yields_keyword .NOT).space hYields.enclosed, ?_, ?_⟩
  · have hNot := Sentence.not (.predicate (.group hSentence.whole))
    rwa [← Nat.max_zero f.nesting] at hNot
  · simp [Filter.same, Filter.sameOperands, hSame]

/-! ## Predicates -/

theorem yields_turned {cs : List Char} {ks : List TokenKind} (negated : Bool) (h : Yields cs ks) :
    Yields (negationChars negated ++ cs) (turned negated ++ ks) := by
  cases negated with
  | false => exact h
  | true => exact (yields_keyword .NOT).space h

theorem comparison_reads_back {left right : Expression} (op : CompareOp) (hLeft : left.Printable)
    (hRight : right.Printable) : (Filter.comparison op left right).ReadsBack := by
  obtain ⟨left', ⟨u, hYields, hLeft⟩, hSame⟩ := hLeft.reads_back
  obtain ⟨right', ⟨v, hYields', hRight⟩, hSame'⟩ := hRight.reads_back
  exact ⟨_, .comparison op left' right', hYields.space ((yields_compare op).space hYields'),
    .predicate (.comparison op (sum_of_unary hLeft) (sum_of_unary hRight)),
    by simp [Filter.same, hSame, hSame']⟩

theorem oneOf_reads_back {e : Expression} {candidates : List Expression} (negated : Bool)
    (h : e.Printable) (hNe : candidates ≠ []) (hCandidates : ∀ c ∈ candidates, c.Printable) :
    (Filter.oneOf e candidates negated).ReadsBack := by
  obtain ⟨e', ⟨u, hYields, hArithmetic⟩, hSame⟩ := h.reads_back
  obtain ⟨es', hRead, hSame'⟩ := readAs_of_printable hCandidates
  obtain ⟨v, hYields', hListing⟩ := listing_of_readAs hNe hRead
  have hText : Yields (Filter.oneOf e candidates negated).cqlChars
      (u ++ (turned negated ++ .keyword .IN :: .opening :: (v ++ [.closing]))) := by
    have hList := (yields_keyword .IN).space hYields'.enclosed
    show Yields (e.cqlChars ++ ' ' :: (negationChars negated ++ "IN (".toList ++
      joinWith ", ".toList (candidates.map Expression.cqlChars) ++ [')'])) _
    rw [List.append_assoc, List.append_assoc]
    exact hYields.space (yields_turned negated hList)
  exact ⟨_, .oneOf e' es' negated, hText,
    .predicate (.membership negated (sum_of_unary hArithmetic) hListing),
    by simp [Filter.same, hSame, hSame']⟩

theorem ids_reads_back {candidates : List Value} (hNe : candidates ≠ [])
    (h : ∀ v ∈ candidates, v.Printable) : (Filter.ids candidates).ReadsBack := by
  obtain ⟨ws, hRead, hSame⟩ := readAs_literals h
  obtain ⟨ks, hYields, hListing⟩ := listing_of_readAs (by simpa using hNe) hRead
  rw [List.map_map] at hYields hListing
  have hText := (yields_keyword .IN).space hYields.enclosed
  exact ⟨_, .ids ws, hText, .predicate (.ids hListing), hSame⟩

theorem like_reads_back {e : Expression} {pattern : LikePattern} {source : String} {relaxed : Bool}
    (negated : Bool) (h : e.Printable)
    (hPattern : LikePattern.compile source relaxed = .ok pattern) :
    (Filter.like e pattern negated).ReadsBack := by
  obtain ⟨e', ⟨u, hYields, hArithmetic⟩, hSame⟩ := h.reads_back
  have hCompile := LikePattern.compile_source hPattern
  have hText : Yields (Filter.like e pattern negated).cqlChars
      (u ++ (turned negated ++ [.keyword .LIKE, .text pattern.source])) := by
    have hLike := (yields_keyword .LIKE).space (yields_text pattern.source)
    show Yields (e.cqlChars ++ ' ' :: (negationChars negated ++ "LIKE ".toList ++
      textChars pattern.source)) _
    rw [List.append_assoc]
    exact hYields.space (yields_turned negated hLike)
  exact ⟨_, .like e' pattern negated, hText,
    .predicate (.like negated (sum_of_unary hArithmetic) hCompile), by simp [Filter.same, hSame]⟩

theorem isNull_reads_back (name : String) (negated : Bool) :
    (Filter.isNull name negated).ReadsBack := by
  have hText : Yields (Filter.isNull name negated).cqlChars
      ([nameToken name] ++ .keyword .IS :: (turned negated ++ [.keyword .NULL])) := by
    have hNull := yields_turned negated (yields_keyword .NULL)
    show Yields (nameChars name ++ " IS ".toList ++ negationChars negated ++ "NULL".toList) _
    rw [List.append_assoc, List.append_assoc]
    exact (yields_name name).space ((yields_keyword .IS).space hNull)
  have hName := sum_of_unary (.operand (arithmetic_name name))
  exact ⟨_, .isNull name negated, hText, .predicate (.nullTest negated hName),
    by simp [Filter.same]⟩

/-! ## Spatial predicates -/

theorem spatialChars_eq (op : SpatialOp) (left right : Expression) :
    Filter.spatialChars op left right
      = op.name.toList ++ '(' ::
        (joinWith ", ".toList ((Filter.spatialArguments op left right).map Expression.cqlChars)
          ++ [')']) := by
  cases op with
  | bbox =>
    cases right with
    | literal v =>
      cases v with
      | geometry g => cases g <;> rfl
      | absent | null | number | text | bool => rfl
    | attr | defaultGeometry | arithmetic => rfl
  | contains | crosses | disjoint | equals | intersects | overlaps | touches | within => rfl

theorem spatialName (op : SpatialOp) :
    isPlainName op.name ∧ SpatialOp.ofName? op.name = some op := by
  cases op <;> decide

theorem spatialArguments_ne_nil (op : SpatialOp) (left right : Expression) :
    Filter.spatialArguments op left right ≠ [] := by
  unfold Filter.spatialArguments
  split <;> exact List.cons_ne_nil _ _

/-- The arguments of a spatial predicate are read one by one. -/
theorem spatial_yields {op : SpatialOp} {left right : Expression} {es : List Expression}
    (h : List.Forall₂ Expression.ReadAs (Filter.spatialArguments op left right) es) :
    ∃ ks, Yields (Filter.spatial op left right).cqlChars
        (.name op.name :: .opening :: (ks ++ [.closing])) ∧
      Listing (Filter.spatial op left right).nesting ks es := by
  obtain ⟨ks, hYields, hListing⟩ :=
    listing_of_readAs (spatialArguments_ne_nil op left right) h
  refine ⟨ks, ?_, hListing⟩
  show Yields (Filter.spatialChars op left right) _
  rw [spatialChars_eq]
  exact hYields.call (spatialName op).1

theorem spatial_reads_back {left right : Expression} (op : SpatialOp) (hLeft : left.Printable)
    (hRight : right.Printable) : (Filter.spatial op left right).ReadsBack := by
  obtain ⟨left', hReadLeft, hSame⟩ := hLeft.reads_back
  obtain ⟨right', hReadRight, hSame'⟩ := hRight.reads_back
  have hRead : List.Forall₂ Expression.ReadAs (Filter.spatialArguments op left right)
      [left', right'] := by
    rw [Filter.spatialArguments_of_ne_rect op left hRight.ne_rect]
    exact .cons hReadLeft (.cons hReadRight .nil)
  obtain ⟨ks, hYields, hListing⟩ := spatial_yields hRead
  exact ⟨_, .spatial op left' right', hYields,
    .predicate (.spatial (spatialName op).2 hListing), by simp [Filter.same, hSame, hSame']⟩

theorem box_reads_back {e : Expression} {a b : Coord} (h : e.Printable) (ha : a.isFinite = true)
    (hb : b.isFinite = true) : (Filter.inBox e a b).ReadsBack := by
  obtain ⟨low, high, hRect, hLow, hHigh, hx, hy⟩ := Geometry.ofCorners_ordered ha hb
  obtain ⟨e', hReadFirst, hSame⟩ := h.reads_back
  have hBox := Geometry.ofCorners_same hLow hHigh hx hy
  simp only [Coord.isFinite, Bool.and_eq_true] at hLow hHigh
  unfold Filter.inBox
  rw [hRect]
  -- The box is printed by its corners, as four numbers after the first argument.
  have hRead : List.Forall₂ Expression.ReadAs
      (Filter.spatialArguments .bbox e (.literal (.geometry (.rect low high)))) _ :=
    .cons hReadFirst (.cons (readAs_number hLow.1) (.cons (readAs_number hLow.2)
      (.cons (readAs_number hHigh.1) (.cons (readAs_number hHigh.2) .nil))))
  obtain ⟨ks, hYields, hListing⟩ := spatial_yields hRead
  exact ⟨_, .inBox e' low.withoutZeroSigns high.withoutZeroSigns, hYields,
    .predicate (.box (spatialName .bbox).2 hListing),
    by simp [Filter.inBox, Filter.same, Expression.same, Value.same, hSame, hBox]⟩

/-! ## All filters -/

/-- Every printable filter is read back, by induction on how it is printable. -/
theorem Filter.Printable.reads_back {f : Filter} (h : f.Printable) : f.ReadsBack := by
  induction h with
  | everything => exact ⟨_, .everything, yields_keyword .INCLUDE, .predicate .everything, rfl⟩
  | nothing => exact ⟨_, .nothing, yields_keyword .EXCLUDE, .predicate .nothing, rfl⟩
  | comparison op hLeft hRight => exact comparison_reads_back op hLeft hRight
  | conjunction hLength _ ih => exact conjunction_reads_back hLength ih
  | disjunction hLength _ ih => exact disjunction_reads_back hLength ih
  | negation _ ih => exact negation_reads_back ih
  | oneOf negated h hNe hCandidates => exact oneOf_reads_back negated h hNe hCandidates
  | like negated h hPattern => exact like_reads_back negated h hPattern
  | isNull name negated => exact isNull_reads_back name negated
  | spatial op hLeft hRight => exact spatial_reads_back op hLeft hRight
  | box h ha hb => exact box_reads_back h ha hb
  | ids hNe hCandidates => exact ids_reads_back hNe hCandidates

end GeoFilter
