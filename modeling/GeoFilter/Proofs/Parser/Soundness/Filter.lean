import GeoFilter.Proofs.Parser.Soundness.Expression

set_option autoImplicit false

/-! # The filters that the parser reads are in the grammar

A parenthesis at the start of a predicate is decided only after it is closed, so the theorems are
about operands: a filter derives from the level that was asked for, an expression from a sum. -/

namespace GeoFilter.Cql

open Grammar

/-! ## Predicates -/

/-- What an operand denotes, where a filter is wanted or a sum is found. -/
def OperandIs (filter : Nat → List TokenKind → Filter → Prop) (d : Nat) (u : List TokenKind) :
    Operand → Prop
  | .filter f => filter d u f
  | .expression e => Arithmetic .sum d u e

theorem parseMembership_sound {scope : Scope} {b : Nat} {e : Expression} {negated : Bool}
    {ts rest : List Token} {f : Filter}
    (h : (parseMembership scope b e negated ts).outcome = .ok (f, rest)) :
    ∃ es, f = .oneOf e es negated ∧ Reads b ts rest fun d u =>
      ∃ v, u = .opening :: (v ++ [.closing]) ∧ Listing d v es := by
  rw [outcome_parseMembership] at h
  obtain ⟨⟨opened, r⟩, hOpened, h⟩ := bind_eq_ok.1 h
  obtain ⟨⟨items, r'⟩, hItems, h⟩ := bind_eq_ok.1 h
  obtain ⟨⟨closing, r''⟩, hClosing, h⟩ := bind_eq_ok.1 h
  obtain ⟨rfl, rfl⟩ := Prod.mk.inj (Except.ok.inj h)
  obtain ⟨rfl, hOpening⟩ := expect_eq_ok.1 hOpened
  obtain ⟨rfl, hClosed⟩ := expectClosing_eq_ok.1 hClosing
  exact ⟨_, rfl, (parseItems_sound hItems).2.listed (Token.isOpening_iff.1 hOpening) hClosed
    fun d u hu => ⟨u, rfl, hu⟩⟩

theorem parsePattern_eq_ok {scope : Scope} {e : Expression} {negated : Bool}
    {ts rest : List Token} {f : Filter}
    (h : (parsePattern scope e negated ts).outcome = .ok (f, rest)) :
    ∃ t pattern p, ts = t :: rest ∧ t.kind = .text pattern ∧
      LikePattern.compile pattern false = .ok p ∧ f = .like e p negated := by
  cases ts with
  | nil => exact absurd h (by simp [parsePattern])
  | cons t after =>
    rw [parsePattern] at h
    split at h
    · next pattern hKind =>
      unfold Filter.matching at h
      cases hPattern : LikePattern.compile pattern false with
      | error reason => simp [hPattern, Except.map] at h
      | ok p =>
        simp only [hPattern, Except.map, outcome_ok, Except.ok.injEq, Prod.mk.injEq] at h
        obtain ⟨rfl, rfl⟩ := h
        exact ⟨t, pattern, p, rfl, hKind, hPattern, rfl⟩
    · exact absurd h (by simp)

theorem parseRange_sound {scope : Scope} {b : Nat} {e : Expression} {negated : Bool}
    {ts rest : List Token} {f : Filter}
    (h : (parseRange scope b e negated ts).outcome = .ok (f, rest)) :
    ∃ low high, f = (if negated then Filter.notBetween e low high
        else Filter.between e low high) ∧
      Reads b ts rest fun d u => ∃ d₁ d₂ v w, d = max d₁ d₂ ∧ u = v ++ .keyword .AND :: w ∧
        Arithmetic .sum d₁ v low ∧ Arithmetic .sum d₂ w high := by
  rw [outcome_parseRange] at h
  obtain ⟨⟨low, r⟩, hLow, h⟩ := bind_eq_ok.1 h
  obtain ⟨⟨word, r'⟩, hWord, h⟩ := bind_eq_ok.1 h
  obtain ⟨⟨high, r''⟩, hHigh, h⟩ := bind_eq_ok.1 h
  obtain ⟨rfl, rfl⟩ := Prod.mk.inj (Except.ok.inj h)
  obtain ⟨rfl, hAnd⟩ := expect_eq_ok.1 hWord
  refine ⟨low, high, rfl, (parseSum_sound hLow).join (parseSum_sound hHigh) ?_⟩
  intro d d' u v hu hv
  rw [Token.isKeyword_iff.1 hAnd]
  exact ⟨d, d', u, v, rfl, rfl, hu, hv⟩

theorem parseNullTest_eq_ok {scope : Scope} {e : Expression} {start : Nat}
    {ts rest : List Token} {f : Filter}
    (h : (parseNullTest scope e start ts).outcome = .ok (f, rest)) :
    ∃ name negated u, e = .attr name ∧ f = .isNull name negated ∧ ts = u ++ rest ∧
      u.map Token.kind = turned negated ++ [.keyword .NULL] := by
  rw [outcome_parseNullTest] at h
  obtain ⟨⟨word, r⟩, hWord, h⟩ := bind_eq_ok.1 h
  obtain ⟨hTokens, hNull⟩ := expect_eq_ok.1 hWord
  cases e with
  | attr name =>
    obtain ⟨rfl, rfl⟩ := Prod.mk.inj (Except.ok.inj h)
    cases hNot : ts.head?.any (·.isKeyword .NOT) with
    | false =>
      rw [hNot, if_neg Bool.false_ne_true] at hTokens
      refine ⟨name, false, [word], rfl, rfl, hTokens, ?_⟩
      simp [turned, Token.isKeyword_iff.1 hNull]
    | true =>
      rw [hNot, if_pos rfl] at hTokens
      obtain ⟨t, ht, hTurned⟩ := (Option.any_eq_true _ _).1 hNot
      obtain ⟨after, rfl⟩ := List.head?_eq_some_iff.1 ht
      refine ⟨name, true, [t, word], rfl, rfl, ?_, ?_⟩
      · simpa using hTokens
      · simp [turned, Token.isKeyword_iff.1 hNull, Token.isKeyword_iff.1 hTurned]
  | literal | defaultGeometry | arithmetic => exact absurd h (by simp)

/-- What follows an expression makes a predicate with it, or leaves it alone. -/
theorem parseCondition_sound {scope : Scope} {b start : Nat} {all ts rest : List Token}
    {e : Expression} {x : Operand}
    (h : (parseCondition scope b e start ts).outcome = .ok (x, rest))
    (hLeft : Reads b all ts (Arithmetic .sum · · e)) :
    Reads b all rest (OperandIs (Sentence .predicate) · · x) := by
  rw [outcome_parseCondition] at h
  cases ts with
  | nil =>
    obtain ⟨rfl, rfl⟩ := Prod.mk.inj (Except.ok.inj h)
    exact hLeft
  | cons t after =>
    dsimp only at h
    split at h
    · next op hKind =>
      obtain ⟨⟨right, r⟩, hRight, h⟩ := bind_eq_ok.1 h
      obtain ⟨rfl, rfl⟩ := Prod.mk.inj (Except.ok.inj h)
      refine hLeft.join (parseSum_sound hRight) ?_
      intro d d' u v hu hv
      rw [hKind]
      exact .comparison op hu hv
    · next hKind =>
      obtain ⟨⟨f, r⟩, hStep, h⟩ := bind_eq_ok.1 h
      obtain ⟨rfl, rfl⟩ := Prod.mk.inj (Except.ok.inj h)
      obtain ⟨es, rfl, hList⟩ := parseMembership_sound hStep
      refine hLeft.join hList ?_
      intro d d' u v hu hv
      obtain ⟨v, rfl, hv⟩ := hv
      rw [hKind]
      exact .membership false hu hv
    · next hKind =>
      obtain ⟨⟨f, r⟩, hStep, h⟩ := bind_eq_ok.1 h
      obtain ⟨rfl, rfl⟩ := Prod.mk.inj (Except.ok.inj h)
      obtain ⟨t', pattern, p, rfl, hText, hPattern, rfl⟩ := parsePattern_eq_ok hStep
      refine hLeft.append (v := [t, t']) ?_
      intro d u hu
      rw [List.map_cons, List.map_singleton, hKind, hText]
      exact .like false hu hPattern
    · next hKind =>
      obtain ⟨⟨f, r⟩, hStep, h⟩ := bind_eq_ok.1 h
      obtain ⟨rfl, rfl⟩ := Prod.mk.inj (Except.ok.inj h)
      obtain ⟨low, high, rfl, hRange⟩ := parseRange_sound hStep
      refine hLeft.join hRange ?_
      intro d d' u v hu hv
      obtain ⟨d₁, d₂, v, w, rfl, rfl, hv, hw⟩ := hv
      rw [hKind]
      exact .between hu hv hw
    · next hKind =>
      obtain ⟨⟨f, r⟩, hStep, h⟩ := bind_eq_ok.1 h
      obtain ⟨rfl, rfl⟩ := Prod.mk.inj (Except.ok.inj h)
      obtain ⟨name, negated, v, rfl, rfl, rfl, hv⟩ := parseNullTest_eq_ok hStep
      refine hLeft.append (v := t :: v) ?_
      intro d u hu
      rw [List.map_cons, hKind, hv]
      exact .nullTest negated hu
    · next hKind =>
      cases after with
      | nil => exact absurd h (by simp)
      | cons t' after =>
        dsimp only at h
        split at h
        · next hKind' =>
          obtain ⟨⟨f, r⟩, hStep, h⟩ := bind_eq_ok.1 h
          obtain ⟨rfl, rfl⟩ := Prod.mk.inj (Except.ok.inj h)
          obtain ⟨es, rfl, hList⟩ := parseMembership_sound hStep
          refine hLeft.joinTwo hList ?_
          intro d d' u v hu hv
          obtain ⟨v, rfl, hv⟩ := hv
          rw [hKind, hKind']
          exact .membership true hu hv
        · next hKind' =>
          obtain ⟨⟨f, r⟩, hStep, h⟩ := bind_eq_ok.1 h
          obtain ⟨rfl, rfl⟩ := Prod.mk.inj (Except.ok.inj h)
          obtain ⟨t'', pattern, p, rfl, hText, hPattern, rfl⟩ := parsePattern_eq_ok hStep
          refine hLeft.append (v := [t, t', t'']) ?_
          intro d u hu
          rw [List.map_cons, List.map_cons, List.map_singleton, hKind, hKind', hText]
          exact .like true hu hPattern
        · next hKind' =>
          obtain ⟨⟨f, r⟩, hStep, h⟩ := bind_eq_ok.1 h
          obtain ⟨rfl, rfl⟩ := Prod.mk.inj (Except.ok.inj h)
          obtain ⟨low, high, rfl, hRange⟩ := parseRange_sound hStep
          refine hLeft.joinTwo hRange ?_
          intro d d' u v hu hv
          obtain ⟨d₁, d₂, v, w, rfl, rfl, hv, hw⟩ := hv
          rw [hKind, hKind']
          exact .notBetween hu hv hw
        · exact absurd h (by simp)
    · obtain ⟨rfl, rfl⟩ := Prod.mk.inj (Except.ok.inj h)
      exact hLeft

/-! ## Identifiers -/

theorem parseIdList_sound {scope : Scope} {b : Nat} {ts rest : List Token} {vs : List Value}
    (h : (parseIdList scope b ts).outcome = .ok (vs, rest)) :
    Reads b ts rest (Listing · · (vs.map Expression.literal)) := by
  rw [outcome_parseIdList] at h
  cases hts : ts with
  | nil =>
    rw [hts] at h
    exact absurd h (by simp)
  | cons t after =>
    have hLength : ts.length = after.length + 1 := by rw [hts, List.length_cons]
    rw [hts] at h
    dsimp only at h
    obtain ⟨⟨item, r⟩, hItem, h⟩ := bind_eq_ok.1 h
    have hShort := outcome_shorter hItem
    have hFirst := (parseOperand_sound hItem).imp fun _ _ h => Arithmetic.term (.factor h)
    dsimp only at h
    split at h
    · obtain ⟨rfl, rfl⟩ := Prod.mk.inj (Except.ok.inj h)
      exact hFirst.imp fun _ _ => .one
    · next value separator more =>
      split at h
      · next hComma =>
        obtain ⟨⟨others, r'⟩, hOthers, h⟩ := bind_eq_ok.1 h
        obtain ⟨rfl, rfl⟩ := Prod.mk.inj (Except.ok.inj h)
        refine hFirst.join (parseIdList_sound hOthers) ?_
        intro d d' u v hu hv
        rw [Token.isComma_iff.1 hComma]
        exact .more hu hv
      · obtain ⟨rfl, rfl⟩ := Prod.mk.inj (Except.ok.inj h)
        exact hFirst.imp fun _ _ => .one
    · exact absurd h (by simp)
  termination_by ts.length
  decreasing_by all_goals simp only [List.length_cons] at *; omega

theorem parseIds_sound {scope : Scope} {b : Nat} {t : Token} {ts rest : List Token} {f : Filter}
    (hKind : t.kind = .keyword .IN) (h : (parseIds scope b ts).outcome = .ok (f, rest)) :
    Reads b (t :: ts) rest (Sentence .predicate · · f) := by
  rw [outcome_parseIds] at h
  obtain ⟨⟨opened, r⟩, hOpened, h⟩ := bind_eq_ok.1 h
  obtain ⟨⟨values, r'⟩, hValues, h⟩ := bind_eq_ok.1 h
  obtain ⟨⟨closing, r''⟩, hClosing, h⟩ := bind_eq_ok.1 h
  obtain ⟨rfl, rfl⟩ := Prod.mk.inj (Except.ok.inj h)
  obtain ⟨rfl, hOpening⟩ := expect_eq_ok.1 hOpened
  obtain ⟨rfl, hClosed⟩ := expectClosing_eq_ok.1 hClosing
  have hList := (parseIdList_sound hValues).listed (Q := fun d u => ∃ v,
    u = .opening :: (v ++ [.closing]) ∧ Listing d v (values.map .literal))
    (Token.isOpening_iff.1 hOpening) hClosed fun d u hu => ⟨u, rfl, hu⟩
  refine hList.cons ?_
  intro d u hu
  obtain ⟨u, rfl, hu⟩ := hu
  rw [hKind]
  exact .ids hu

/-! ## Spatial predicates -/

theorem coordinate_eq_ok {argument : Token × Expression} {x : Float} :
    coordinate argument = .ok x ↔ argument.2 = .literal (.number x) := by
  unfold coordinate
  split <;> simp_all

theorem spatialFilter_eq_ok {op : SpatialOp} {name : Token} {arguments : List (Token × Expression)}
    {f : Filter} (h : spatialFilter op name arguments = .ok f) :
    (∃ left right, arguments.map Prod.snd = [left, right] ∧ f = .spatial op left right) ∨
      (op = .bbox ∧ ∃ e x₁ y₁ x₂ y₂, f = .inBox e ⟨x₁, y₁⟩ ⟨x₂, y₂⟩ ∧
        arguments.map Prod.snd = [e, .literal (.number x₁), .literal (.number y₁),
          .literal (.number x₂), .literal (.number y₂)]) := by
  unfold spatialFilter at h
  split at h
  · next left right =>
    rw [← Except.ok.inj h]
    exact .inl ⟨left.2, right.2, rfl, rfl⟩
  · next subject a b c d =>
    obtain ⟨x₁, hx₁, h⟩ := bind_eq_ok.1 h
    obtain ⟨y₁, hy₁, h⟩ := bind_eq_ok.1 h
    obtain ⟨x₂, hx₂, h⟩ := bind_eq_ok.1 h
    obtain ⟨y₂, hy₂, h⟩ := bind_eq_ok.1 h
    rw [coordinate_eq_ok] at hx₁ hy₁ hx₂ hy₂
    refine .inr ⟨rfl, subject.2, x₁, y₁, x₂, y₂, (Except.ok.inj h).symm, ?_⟩
    simp only [List.map_cons, List.map_nil, hx₁, hy₁, hx₂, hy₂]
  · exact absurd h (by simp)

theorem parseSpatial_sound {scope : Scope} {b : Nat} {op : SpatialOp} {name : String} {t : Token}
    {ts rest : List Token} {f : Filter} (hKind : t.kind = .name name)
    (hName : SpatialOp.ofName? name = some op)
    (h : (parseSpatial scope b op t ts).outcome = .ok (f, rest)) :
    Reads b (t :: ts) rest (Sentence .predicate · · f) := by
  rw [outcome_parseSpatial] at h
  obtain ⟨⟨opened, r⟩, hOpened, h⟩ := bind_eq_ok.1 h
  obtain ⟨⟨arguments, r'⟩, hArguments, h⟩ := bind_eq_ok.1 h
  obtain ⟨f', hFilter, h⟩ := bind_eq_ok.1 h
  obtain ⟨rfl, rfl⟩ := Prod.mk.inj (Except.ok.inj h)
  obtain ⟨rfl, hOpening⟩ := expect_eq_ok.1 hOpened
  have hShape := spatialFilter_eq_ok hFilter
  rcases parseArguments_sound hArguments with ⟨closing, -, -, rfl⟩ | ⟨-, closing, hClosed, hRead⟩
  · simp at hShape
  · have hList := hRead.listed (Q := fun d u => ∃ v, u = .opening :: (v ++ [.closing]) ∧
      Listing d v (arguments.map Prod.snd)) (Token.isOpening_iff.1 hOpening) hClosed
      fun d u hu => ⟨u, rfl, hu⟩
    refine hList.cons ?_
    intro d u hu
    obtain ⟨u, rfl, hu⟩ := hu
    rw [hKind]
    rcases hShape with ⟨left, right, hItems, rfl⟩ | ⟨rfl, e, x₁, y₁, x₂, y₂, rfl, hItems⟩
    · exact .spatial hName (hItems ▸ hu)
    · exact .box hName (hItems ▸ hu)

/-! ## Filters -/

theorem requireFilter_eq_ok {scope : Scope} {x : Operand} {after : List Token} {f : Filter} :
    requireFilter scope x after = .ok f ↔ x = .filter f := by
  cases x <;> simp [requireFilter]

theorem head_isKeyword_iff {ts : List Token} {word : Keyword} :
    ts.head?.any (·.isKeyword word) ↔ ∃ t rest, ts = t :: rest ∧ t.kind = .keyword word := by
  cases ts with
  | nil => simp
  | cons t rest => simp [Token.isKeyword_iff]

theorem OperandIs.imp {filter filter' : Nat → List TokenKind → Filter → Prop} {x : Operand}
    (h : ∀ d u f, filter d u f → filter' d u f) (d : Nat) (u : List TokenKind)
    (hx : OperandIs filter d u x) : OperandIs filter' d u x := by
  cases x with
  | filter f => exact h d u f hx
  | expression e => exact hx

theorem spatialCall_eq_some {t : Token} {rest : List Token} {op : SpatialOp}
    (h : spatialCall? t rest = some op) :
    ∃ name, t.kind = .name name ∧ SpatialOp.ofName? name = some op := by
  unfold spatialCall? at h
  split at h
  · next name opened after hKind =>
    split at h
    · exact ⟨name, hKind, h⟩
    · exact absurd h (by simp)
  · exact absurd h (by simp)

mutual

theorem parseOr_sound {scope : Scope} {b : Nat} {ts rest : List Token} {x : Operand}
    (h : (parseOr scope b ts).outcome = .ok (x, rest)) :
    Reads b ts rest (OperandIs (Sentence .disjunction) · · x) := by
  rw [outcome_parseOr] at h
  obtain ⟨⟨operand, r⟩, hOperand, h⟩ := bind_eq_ok.1 h
  have hShort := outcome_shorter hOperand
  have hFirst := parseAnd_sound hOperand
  dsimp only at h
  split at h
  · obtain ⟨f, hFilter, h⟩ := bind_eq_ok.1 h
    obtain ⟨⟨others, r'⟩, hOthers, h⟩ := bind_eq_ok.1 h
    obtain ⟨rfl, rfl⟩ := Prod.mk.inj (Except.ok.inj h)
    obtain rfl : operand = .filter f := requireFilter_eq_ok.1 hFilter
    exact (parseOrs_sound hOthers hFirst).imp fun _ _ => Sentence.disjunction
  · obtain ⟨rfl, rfl⟩ := Prod.mk.inj (Except.ok.inj h)
    exact hFirst.imp (OperandIs.imp fun d u f hf => .disjunction (.alternative hf))
  termination_by ts.length * 4 + 3
  decreasing_by all_goals omega

theorem parseOrs_sound {scope : Scope} {b : Nat} {all ts rest : List Token} {f : Filter}
    {fs : List Filter} (h : (parseOrs scope b ts).outcome = .ok (fs, rest))
    (hFirst : Reads b all ts (Sentence .conjunction · · f)) :
    Reads b all rest (Sentence .alternatives · · (f :: fs)) := by
  rw [outcome_parseOrs] at h
  cases hts : ts with
  | nil =>
    rw [hts] at h hFirst
    obtain ⟨rfl, rfl⟩ := Prod.mk.inj (Except.ok.inj h)
    exact hFirst.imp fun _ _ => Sentence.alternative
  | cons t after =>
    have hLength : ts.length = after.length + 1 := by rw [hts, List.length_cons]
    rw [hts] at h hFirst
    dsimp only at h
    split at h
    · next hOr =>
      obtain ⟨⟨right, r⟩, hRight, h⟩ := bind_eq_ok.1 h
      obtain ⟨f', hFilter, h⟩ := bind_eq_ok.1 h
      obtain ⟨⟨others, r'⟩, hOthers, h⟩ := bind_eq_ok.1 h
      obtain ⟨rfl, rfl⟩ := Prod.mk.inj (Except.ok.inj h)
      have hShort := outcome_shorter hRight
      have hSecond := parseAnd_sound hRight
      obtain rfl : right = .filter f' := requireFilter_eq_ok.1 hFilter
      refine hFirst.join (parseOrs_sound hOthers hSecond) ?_
      intro d d' u v hu hv
      rw [Token.isKeyword_iff.1 hOr]
      exact .alternatives hu hv
    · obtain ⟨rfl, rfl⟩ := Prod.mk.inj (Except.ok.inj h)
      exact hFirst.imp fun _ _ => Sentence.alternative
  termination_by ts.length * 4
  decreasing_by all_goals omega

theorem parseAnd_sound {scope : Scope} {b : Nat} {ts rest : List Token} {x : Operand}
    (h : (parseAnd scope b ts).outcome = .ok (x, rest)) :
    Reads b ts rest (OperandIs (Sentence .conjunction) · · x) := by
  rw [outcome_parseAnd] at h
  obtain ⟨⟨operand, r⟩, hOperand, h⟩ := bind_eq_ok.1 h
  have hShort := outcome_shorter hOperand
  have hFirst := parseNot_sound hOperand
  dsimp only at h
  split at h
  · obtain ⟨f, hFilter, h⟩ := bind_eq_ok.1 h
    obtain ⟨⟨others, r'⟩, hOthers, h⟩ := bind_eq_ok.1 h
    obtain ⟨rfl, rfl⟩ := Prod.mk.inj (Except.ok.inj h)
    obtain rfl : operand = .filter f := requireFilter_eq_ok.1 hFilter
    exact (parseAnds_sound hOthers hFirst).imp fun _ _ => Sentence.conjunction
  · obtain ⟨rfl, rfl⟩ := Prod.mk.inj (Except.ok.inj h)
    exact hFirst.imp (OperandIs.imp fun d u f hf => .conjunction (.conjunct hf))
  termination_by ts.length * 4 + 2
  decreasing_by all_goals omega

theorem parseAnds_sound {scope : Scope} {b : Nat} {all ts rest : List Token} {f : Filter}
    {fs : List Filter} (h : (parseAnds scope b ts).outcome = .ok (fs, rest))
    (hFirst : Reads b all ts (Sentence .negation · · f)) :
    Reads b all rest (Sentence .conjuncts · · (f :: fs)) := by
  rw [outcome_parseAnds] at h
  cases hts : ts with
  | nil =>
    rw [hts] at h hFirst
    obtain ⟨rfl, rfl⟩ := Prod.mk.inj (Except.ok.inj h)
    exact hFirst.imp fun _ _ => Sentence.conjunct
  | cons t after =>
    have hLength : ts.length = after.length + 1 := by rw [hts, List.length_cons]
    rw [hts] at h hFirst
    dsimp only at h
    split at h
    · next hAnd =>
      obtain ⟨⟨right, r⟩, hRight, h⟩ := bind_eq_ok.1 h
      obtain ⟨f', hFilter, h⟩ := bind_eq_ok.1 h
      obtain ⟨⟨others, r'⟩, hOthers, h⟩ := bind_eq_ok.1 h
      obtain ⟨rfl, rfl⟩ := Prod.mk.inj (Except.ok.inj h)
      have hShort := outcome_shorter hRight
      have hSecond := parseNot_sound hRight
      obtain rfl : right = .filter f' := requireFilter_eq_ok.1 hFilter
      refine hFirst.join (parseAnds_sound hOthers hSecond) ?_
      intro d d' u v hu hv
      rw [Token.isKeyword_iff.1 hAnd]
      exact .conjuncts hu hv
    · obtain ⟨rfl, rfl⟩ := Prod.mk.inj (Except.ok.inj h)
      exact hFirst.imp fun _ _ => Sentence.conjunct
  termination_by ts.length * 4
  decreasing_by all_goals omega

theorem parseNot_sound {scope : Scope} {b : Nat} {ts rest : List Token} {x : Operand}
    (h : (parseNot scope b ts).outcome = .ok (x, rest)) :
    Reads b ts rest (OperandIs (Sentence .negation) · · x) := by
  rw [outcome_parseNot] at h
  cases hts : ts with
  | nil =>
    rw [hts] at h
    exact absurd h (by simp)
  | cons t after =>
    have hLength : ts.length = after.length + 1 := by rw [hts, List.length_cons]
    rw [hts] at h
    dsimp only at h
    split at h
    · next hNot =>
      cases b with
      | zero => exact absurd h (by simp)
      | succ b =>
        obtain ⟨⟨operand, r⟩, hOperand, h⟩ := bind_eq_ok.1 h
        obtain ⟨f, hFilter, h⟩ := bind_eq_ok.1 h
        obtain ⟨rfl, rfl⟩ := Prod.mk.inj (Except.ok.inj h)
        have hInner := parseNot_sound hOperand
        obtain rfl : operand = .filter f := requireFilter_eq_ok.1 hFilter
        refine hInner.nest ?_
        intro d u hu
        rw [Token.isKeyword_iff.1 hNot]
        exact Sentence.not hu
    · exact (parsePredicate_sound h).imp (OperandIs.imp fun d u f => .predicate)
  termination_by ts.length * 4 + 1
  decreasing_by all_goals omega

theorem parsePredicate_sound {scope : Scope} {b : Nat} {t : Token} {ts rest : List Token}
    {x : Operand} (h : (parsePredicate scope b t ts).outcome = .ok (x, rest)) :
    Reads b (t :: ts) rest (OperandIs (Sentence .predicate) · · x) := by
  rw [outcome_parsePredicate] at h
  split at h
  · next hKind =>
    obtain ⟨rfl, rfl⟩ := Prod.mk.inj (Except.ok.inj h)
    exact .one (hKind ▸ Sentence.everything)
  · next hKind =>
    obtain ⟨rfl, rfl⟩ := Prod.mk.inj (Except.ok.inj h)
    exact .one (hKind ▸ Sentence.nothing)
  · next hKind =>
    obtain ⟨⟨f, r⟩, hIds, h⟩ := bind_eq_ok.1 h
    obtain ⟨rfl, rfl⟩ := Prod.mk.inj (Except.ok.inj h)
    exact parseIds_sound hKind hIds
  · next hKind =>
    cases b with
    | zero => exact absurd h (by simp)
    | succ b =>
      obtain ⟨⟨group, r⟩, hGroup, h⟩ := bind_eq_ok.1 h
      obtain ⟨⟨closing, r'⟩, hClosing, hAfter⟩ := bind_eq_ok.1 h
      obtain ⟨rfl, hClosed⟩ := expectClosing_eq_ok.1 hClosing
      have hInner := parseOr_sound hGroup
      cases group with
      | filter f =>
        dsimp only at hAfter
        split at hAfter
        · exact absurd hAfter (by simp)
        · obtain ⟨rfl, rfl⟩ := Prod.mk.inj (Except.ok.inj hAfter)
          exact hInner.enclosed hKind hClosed fun d u hu => Sentence.group hu
      | expression e =>
        obtain ⟨⟨product, r₁⟩, hProduct, hAfter⟩ := bind_eq_ok.1 hAfter
        obtain ⟨⟨sum, r₂⟩, hSum, hAfter⟩ := bind_eq_ok.1 hAfter
        have hPrimary : Reads (b + 1) (t :: ts) r' (Arithmetic .product · · e) :=
          hInner.enclosed hKind hClosed fun d u hu => .factor (.operand (.group hu))
        have hFactors := (parseFactors_sound hProduct hPrimary).imp fun _ _ => Arithmetic.term
        exact parseCondition_sound hAfter (parseTerms_sound hSum hFactors)
  · split at h
    · next op hCall =>
      obtain ⟨⟨f, r⟩, hSpatial, h⟩ := bind_eq_ok.1 h
      obtain ⟨rfl, rfl⟩ := Prod.mk.inj (Except.ok.inj h)
      obtain ⟨name, hKind, hName⟩ := spatialCall_eq_some hCall
      exact parseSpatial_sound hKind hName hSpatial
    · rw [outcome_parseComparison] at h
      obtain ⟨⟨left, r⟩, hLeft, h⟩ := bind_eq_ok.1 h
      exact parseCondition_sound h (parseSum_sound hLeft)
  termination_by (ts.length + 1) * 4
  decreasing_by all_goals omega

end

/-- A filter that was read to the end of the tokens is a sentence of the grammar. -/
theorem sentence_of_parseOr {scope : Scope} {b : Nat} {ts : List Token} {f : Filter}
    (h : (parseOr scope b ts).outcome = .ok (.filter f, [])) :
    ∃ d, d ≤ b ∧ Sentence .disjunction d (ts.map Token.kind) f := by
  obtain ⟨d, u, hd, hts, hu⟩ := parseOr_sound h
  rw [hts, List.append_nil]
  exact ⟨d, hd, hu⟩

end GeoFilter.Cql
