import GeoFilter.Proofs.Parser.Grammar
import GeoFilter.Proofs.Parser.Outcome

set_option autoImplicit false

/-! # The expressions that the parser reads are in the grammar

Each parsing function that succeeds has read tokens that derive its value, at a nesting that its
budget pays for. The theorems call one another as the functions do. -/

namespace GeoFilter.Cql

open Grammar

/-- The tokens of `ts` before its tail `rest` have a property at a nesting of at most `b` levels. -/
def Reads (b : Nat) (ts rest : List Token) (P : Nat → List TokenKind → Prop) : Prop :=
  ∃ d u, d ≤ b ∧ ts = u ++ rest ∧ P d (u.map Token.kind)

namespace Reads

variable {b : Nat} {ts mid rest : List Token} {P Q R : Nat → List TokenKind → Prop}

theorem imp (h : Reads b ts rest P) (hPQ : ∀ d u, P d u → Q d u) : Reads b ts rest Q := by
  obtain ⟨d, u, hd, rfl, hu⟩ := h
  exact ⟨d, u, hd, rfl, hPQ d _ hu⟩

theorem one {t : Token} (h : P 0 [t.kind]) : Reads b (t :: rest) rest P :=
  ⟨0, [t], Nat.zero_le b, rfl, h⟩

/-- A token before what was read. -/
theorem cons {t : Token} (h : Reads b ts rest P) (hPQ : ∀ d u, P d u → Q d (t.kind :: u)) :
    Reads b (t :: ts) rest Q := by
  obtain ⟨d, u, hd, rfl, hu⟩ := h
  exact ⟨d, t :: u, hd, rfl, hPQ d _ hu⟩

/-- A token before what was read, which it nests one level deeper. -/
theorem nest {t : Token} (h : Reads b ts rest P) (hPQ : ∀ d u, P d u → Q (d + 1) (t.kind :: u)) :
    Reads (b + 1) (t :: ts) rest Q := by
  obtain ⟨d, u, hd, rfl, hu⟩ := h
  exact ⟨d + 1, t :: u, Nat.succ_le_succ hd, rfl, hPQ d _ hu⟩

/-- Two readings with a token between them. -/
theorem join {t : Token} (h : Reads b ts (t :: mid) P) (h' : Reads b mid rest Q)
    (hR : ∀ d d' u v, P d u → Q d' v → R (max d d') (u ++ t.kind :: v)) :
    Reads b ts rest R := by
  obtain ⟨d, u, hd, rfl, hu⟩ := h
  obtain ⟨d', v, hd', rfl, hv⟩ := h'
  refine ⟨max d d', u ++ t :: v, Nat.max_le.2 ⟨hd, hd'⟩, by simp, ?_⟩
  rw [List.map_append, List.map_cons]
  exact hR d d' _ _ hu hv

/-- Two readings with two tokens between them. -/
theorem joinTwo {t t' : Token} (h : Reads b ts (t :: t' :: mid) P) (h' : Reads b mid rest Q)
    (hR : ∀ d d' u v, P d u → Q d' v → R (max d d') (u ++ t.kind :: t'.kind :: v)) :
    Reads b ts rest R := by
  -- The second token is read together with what comes after it.
  have hSecond : Reads b (t' :: mid) rest fun d u => ∃ v, u = t'.kind :: v ∧ Q d v :=
    h'.cons fun d v hv => ⟨v, rfl, hv⟩
  refine h.join hSecond ?_
  intro d d' u v hu hv
  obtain ⟨v, rfl, hv⟩ := hv
  exact hR d d' u v hu hv

/-- Tokens after what was read, which do not nest. -/
theorem append {v : List Token} (h : Reads b ts (v ++ rest) P)
    (hPQ : ∀ d u, P d u → Q d (u ++ v.map Token.kind)) : Reads b ts rest Q := by
  obtain ⟨d, u, hd, rfl, hu⟩ := h
  refine ⟨d, u ++ v, hd, by simp, ?_⟩
  rw [List.map_append]
  exact hPQ d _ hu

/-- Parentheses around what was read, which do not count as nesting. -/
theorem listed {opened closing : Token} (hOpened : opened.kind = .opening)
    (hClosing : closing.kind = .closing) (h : Reads b ts (closing :: rest) P)
    (hPQ : ∀ d u, P d u → Q d (.opening :: (u ++ [.closing]))) :
    Reads b (opened :: ts) rest Q := by
  obtain ⟨d, u, hd, rfl, hu⟩ := h
  refine ⟨d, opened :: (u ++ [closing]), hd, by simp, ?_⟩
  rw [List.map_cons, List.map_append, List.map_singleton, hOpened, hClosing]
  exact hPQ d _ hu

/-- Parentheses around what was read, which count as one level. -/
theorem enclosed {opened closing : Token} (hOpened : opened.kind = .opening)
    (hClosing : closing.kind = .closing) (h : Reads b ts (closing :: rest) P)
    (hPQ : ∀ d u, P d u → Q (d + 1) (.opening :: (u ++ [.closing]))) :
    Reads (b + 1) (opened :: ts) rest Q := by
  obtain ⟨d, u, hd, rfl, hu⟩ := h
  refine ⟨d + 1, opened :: (u ++ [closing]), Nat.succ_le_succ hd, by simp, ?_⟩
  rw [List.map_cons, List.map_append, List.map_singleton, hOpened, hClosing]
  exact hPQ d _ hu

end Reads

/-! ## Single tokens -/

theorem Token.isOpening_iff {t : Token} : t.isOpening ↔ t.kind = .opening := by
  unfold Token.isOpening
  split <;> simp_all

theorem Token.isClosing_iff {t : Token} : t.isClosing ↔ t.kind = .closing := by
  unfold Token.isClosing
  split <;> simp_all

theorem Token.isComma_iff {t : Token} : t.isComma ↔ t.kind = .comma := by
  unfold Token.isComma
  split <;> simp_all

theorem Token.isKeyword_iff {t : Token} {word : Keyword} :
    t.isKeyword word ↔ t.kind = .keyword word := by
  unfold Token.isKeyword
  split <;> simp_all

theorem expect_eq_ok {scope : Scope} {test : Token → Bool} {expected : Expectation}
    {ts rest : List Token} {t : Token} :
    (expect scope test expected ts).outcome = .ok (t, rest) ↔ ts = t :: rest ∧ test t := by
  cases ts with
  | nil => simp [expect]
  | cons t' ts =>
    rw [expect]
    split
    · next h =>
      simp only [outcome_ok, Except.ok.injEq, Prod.mk.injEq, List.cons.injEq]
      constructor
      · rintro ⟨rfl, rfl⟩
        exact ⟨⟨rfl, rfl⟩, h⟩
      · exact fun h' => h'.1
    · next h =>
      simp only [outcome_error, reduceCtorEq, List.cons.injEq, false_iff]
      rintro ⟨⟨rfl, rfl⟩, h'⟩
      exact h h'

theorem expectClosing_eq_ok {scope : Scope} {opened t : Token} {ts rest : List Token} :
    (expectClosing scope opened ts).outcome = .ok (t, rest)
      ↔ ts = t :: rest ∧ t.kind = .closing := by
  rw [← Token.isClosing_iff]
  cases ts with
  | nil => simp [expectClosing]
  | cons t' ts => exact expect_eq_ok

/-! ## Expressions -/

theorem arithmetic_negated {d : Nat} {u : List TokenKind} {e : Expression}
    (h : Arithmetic .unary d u e) :
    Arithmetic .unary (d + 1) (.arithmetic .sub :: u) (negated e) := by
  unfold negated
  split
  · exact .minusNumber h
  · next hNumber => exact .minus h hNumber

theorem geometryLiteral_eq_ok {t : Token} {source : String} {e : Expression}
    (h : geometryLiteral t source = .ok e) : Arithmetic .primary 0 [.geometry source] e := by
  unfold geometryLiteral at h
  split at h
  · next g hg =>
    rw [← Except.ok.inj h]
    exact .geometry hg
  · exact absurd h (by simp)

theorem outcome_shorter {α : Type} {n : Nat} {step : Parse α n} {a : α} {rest : List Token}
    (h : step.outcome = .ok (a, rest)) : rest.length < n := by
  cases step with
  | error e => exact absurd h (by simp)
  | ok p =>
    obtain ⟨rfl, rfl⟩ := Prod.mk.inj (Except.ok.inj h)
    exact p.shorter

theorem loose_of_not_tight {op : ArithmeticOp} (h : ¬ bindsTightly op) : op = .add ∨ op = .sub := by
  cases op <;> simp_all [bindsTightly]

theorem tight_of_bindsTightly {op : ArithmeticOp} (h : bindsTightly op) :
    op = .mul ∨ op = .div := by
  cases op <;> simp_all [bindsTightly]

mutual

theorem parseSum_sound {scope : Scope} {b : Nat} {ts rest : List Token} {e : Expression}
    (h : (parseSum scope b ts).outcome = .ok (e, rest)) :
    Reads b ts rest (Arithmetic .sum · · e) := by
  rw [outcome_parseSum] at h
  obtain ⟨⟨operand, r⟩, hOperand, h⟩ := bind_eq_ok.1 h
  obtain ⟨⟨product, r'⟩, hProduct, h⟩ := bind_eq_ok.1 h
  -- The lengths are for the termination check below, which sees the calls of the function.
  have hShort := outcome_shorter hOperand
  have hShort' : r'.length < r.length + 1 := outcome_shorter hProduct
  have hFirst := (parseOperand_sound hOperand).imp fun _ _ => Arithmetic.factor
  have hFactors := (parseFactors_sound hProduct hFirst).imp fun _ _ => Arithmetic.term
  exact parseTerms_sound h hFactors
  termination_by ts.length * 4 + 2
  decreasing_by all_goals omega

theorem parseTerms_sound {scope : Scope} {b : Nat} {all ts rest : List Token}
    {left e : Expression} (h : (parseTerms scope b left ts).outcome = .ok (e, rest))
    (hLeft : Reads b all ts (Arithmetic .sum · · left)) :
    Reads b all rest (Arithmetic .sum · · e) := by
  -- `all` is where the sum began: what was read before grows by a term in each round.
  rw [outcome_parseTerms] at h
  cases hts : ts with
  | nil =>
    rw [hts] at h hLeft
    obtain ⟨rfl, rfl⟩ := Prod.mk.inj (Except.ok.inj h)
    exact hLeft
  | cons t after =>
    have hLength : ts.length = after.length + 1 := by rw [hts, List.length_cons]
    rw [hts] at h hLeft
    dsimp only at h
    split at h
    · next op hKind =>
      split at h
      · obtain ⟨rfl, rfl⟩ := Prod.mk.inj (Except.ok.inj h)
        exact hLeft
      · next hLoose =>
        obtain ⟨⟨operand, r⟩, hOperand, h⟩ := bind_eq_ok.1 h
        obtain ⟨⟨right, r'⟩, hProduct, h⟩ := bind_eq_ok.1 h
        have hShort := outcome_shorter hOperand
        have hShort' : r'.length < r.length + 1 := outcome_shorter hProduct
        have hFirst := (parseOperand_sound hOperand).imp fun _ _ => Arithmetic.factor
        have hRight := parseFactors_sound hProduct hFirst
        refine parseTerms_sound h (hLeft.join hRight ?_)
        intro d d' u v hu hv
        rw [hKind]
        exact .terms hu (loose_of_not_tight hLoose) hv
    · obtain ⟨rfl, rfl⟩ := Prod.mk.inj (Except.ok.inj h)
      exact hLeft
  termination_by ts.length * 4
  decreasing_by all_goals omega

theorem parseFactors_sound {scope : Scope} {b : Nat} {all ts rest : List Token}
    {left e : Expression} (h : (parseFactors scope b left ts).outcome = .ok (e, rest))
    (hLeft : Reads b all ts (Arithmetic .product · · left)) :
    Reads b all rest (Arithmetic .product · · e) := by
  rw [outcome_parseFactors] at h
  cases hts : ts with
  | nil =>
    rw [hts] at h hLeft
    obtain ⟨rfl, rfl⟩ := Prod.mk.inj (Except.ok.inj h)
    exact hLeft
  | cons t after =>
    have hLength : ts.length = after.length + 1 := by rw [hts, List.length_cons]
    rw [hts] at h hLeft
    dsimp only at h
    split at h
    · next op hKind =>
      split at h
      · next hTight =>
        obtain ⟨⟨right, r⟩, hOperand, h⟩ := bind_eq_ok.1 h
        have hShort := outcome_shorter hOperand
        have hRight := parseOperand_sound hOperand
        refine parseFactors_sound h (hLeft.join hRight ?_)
        intro d d' u v hu hv
        rw [hKind]
        exact .factors hu (tight_of_bindsTightly hTight) hv
      · obtain ⟨rfl, rfl⟩ := Prod.mk.inj (Except.ok.inj h)
        exact hLeft
    · obtain ⟨rfl, rfl⟩ := Prod.mk.inj (Except.ok.inj h)
      exact hLeft
  termination_by ts.length * 4
  decreasing_by all_goals omega

theorem parseOperand_sound {scope : Scope} {b : Nat} {ts rest : List Token} {e : Expression}
    (h : (parseOperand scope b ts).outcome = .ok (e, rest)) :
    Reads b ts rest (Arithmetic .unary · · e) := by
  rw [outcome_parseOperand] at h
  cases hts : ts with
  | nil =>
    rw [hts] at h
    exact absurd h (by simp)
  | cons t after =>
    have hLength : ts.length = after.length + 1 := by rw [hts, List.length_cons]
    rw [hts] at h
    dsimp only at h
    split at h
    · next hKind =>
      cases b with
      | zero => exact absurd h (by simp)
      | succ b =>
        obtain ⟨⟨operand, r⟩, hOperand, h⟩ := bind_eq_ok.1 h
        obtain ⟨rfl, rfl⟩ := Prod.mk.inj (Except.ok.inj h)
        refine (parseOperand_sound hOperand).nest ?_
        intro d u hu
        rw [hKind]
        exact arithmetic_negated hu
    · exact (parsePrimary_sound h).imp fun _ _ => Arithmetic.operand
  termination_by ts.length * 4 + 1
  decreasing_by all_goals omega

theorem parsePrimary_sound {scope : Scope} {b : Nat} {t : Token} {ts rest : List Token}
    {e : Expression} (h : (parsePrimary scope b t ts).outcome = .ok (e, rest)) :
    Reads b (t :: ts) rest (Arithmetic .primary · · e) := by
  rw [outcome_parsePrimary] at h
  split at h
  · next x hKind =>
    obtain ⟨rfl, rfl⟩ := Prod.mk.inj (Except.ok.inj h)
    exact .one (hKind ▸ .number x)
  · next s hKind =>
    obtain ⟨rfl, rfl⟩ := Prod.mk.inj (Except.ok.inj h)
    exact .one (hKind ▸ .text s)
  · next hKind =>
    obtain ⟨rfl, rfl⟩ := Prod.mk.inj (Except.ok.inj h)
    exact .one (hKind ▸ .true)
  · next hKind =>
    obtain ⟨rfl, rfl⟩ := Prod.mk.inj (Except.ok.inj h)
    exact .one (hKind ▸ .false)
  · next hKind =>
    obtain ⟨rfl, rfl⟩ := Prod.mk.inj (Except.ok.inj h)
    exact .one (hKind ▸ .null)
  · next source hKind =>
    obtain ⟨literal, hLiteral, h⟩ := bind_eq_ok.1 h
    obtain ⟨rfl, rfl⟩ := Prod.mk.inj (Except.ok.inj h)
    exact .one (hKind ▸ geometryLiteral_eq_ok hLiteral)
  · next name hKind =>
    obtain ⟨rfl, rfl⟩ := Prod.mk.inj (Except.ok.inj h)
    exact .one (hKind ▸ .quotedName name)
  · next name hKind =>
    cases hts : ts with
    | nil =>
      rw [hts] at h
      obtain ⟨rfl, rfl⟩ := Prod.mk.inj (Except.ok.inj h)
      exact .one (hKind ▸ .name name)
    | cons opened after =>
      have hLength : ts.length = after.length + 1 := by rw [hts, List.length_cons]
      rw [hts] at h
      dsimp only at h
      split at h
      · next hOpening =>
        split at h
        · next hName =>
          obtain ⟨⟨arguments, r⟩, hArguments, h⟩ := bind_eq_ok.1 h
          dsimp only at h
          split at h
          · next hEmpty =>
            obtain ⟨rfl, rfl⟩ := Prod.mk.inj (Except.ok.inj h)
            rcases parseArguments_sound hArguments with ⟨closing, hClosing, rfl, -⟩ | hItems
            · refine ⟨0, [t, opened, closing], Nat.zero_le b, rfl, ?_⟩
              simp only [List.map_cons, List.map_nil, hKind, hClosing,
                Token.isOpening_iff.1 hOpening]
              exact .defaultGeometry hName
            -- A list of arguments is never empty, so the call had none.
            · exact absurd (List.isEmpty_iff.1 hEmpty) hItems.1
          · exact absurd h (by simp)
        · exact absurd h (by simp)
      · obtain ⟨rfl, rfl⟩ := Prod.mk.inj (Except.ok.inj h)
        exact .one (hKind ▸ .name name)
  · next hKind =>
    cases b with
    | zero => exact absurd h (by simp)
    | succ b =>
      obtain ⟨⟨inner, r⟩, hInner, h⟩ := bind_eq_ok.1 h
      obtain ⟨⟨closing, r'⟩, hClosing, h⟩ := bind_eq_ok.1 h
      obtain ⟨rfl, rfl⟩ := Prod.mk.inj (Except.ok.inj h)
      obtain ⟨rfl, hClosed⟩ := expectClosing_eq_ok.1 hClosing
      exact (parseSum_sound hInner).enclosed hKind hClosed fun _ _ => Arithmetic.group
  · exact absurd h (by simp)
  termination_by (ts.length + 1) * 4
  decreasing_by all_goals omega

/-- Arguments are none at all, or a list before the closing parenthesis. -/
theorem parseArguments_sound {scope : Scope} {b : Nat} {opened : Token} {ts rest : List Token}
    {arguments : List (Token × Expression)}
    (h : (parseArguments scope b opened ts).outcome = .ok (arguments, rest)) :
    (∃ closing, closing.kind = .closing ∧ ts = closing :: rest ∧ arguments = []) ∨
      (arguments ≠ [] ∧ ∃ closing, closing.kind = .closing ∧
        Reads b ts (closing :: rest) (Listing · · (arguments.map Prod.snd))) := by
  rw [outcome_parseArguments] at h
  cases hts : ts with
  | nil =>
    rw [hts] at h
    exact absurd h (by simp)
  | cons t after =>
    have hLength : ts.length = after.length + 1 := by rw [hts, List.length_cons]
    rw [hts] at h
    dsimp only at h
    split at h
    · next hClosing =>
      obtain ⟨rfl, rfl⟩ := Prod.mk.inj (Except.ok.inj h)
      exact .inl ⟨t, Token.isClosing_iff.1 hClosing, rfl, rfl⟩
    · obtain ⟨⟨items, r⟩, hItems, h⟩ := bind_eq_ok.1 h
      obtain ⟨⟨closing, r'⟩, hClosing, h⟩ := bind_eq_ok.1 h
      obtain ⟨rfl, rfl⟩ := Prod.mk.inj (Except.ok.inj h)
      obtain ⟨rfl, hClosed⟩ := expectClosing_eq_ok.1 hClosing
      obtain ⟨hNe, hRead⟩ := parseItems_sound hItems
      exact .inr ⟨hNe, closing, hClosed, hRead⟩
  termination_by ts.length * 4 + 4
  decreasing_by all_goals simp only [List.length_cons] at *; omega

theorem parseItems_sound {scope : Scope} {b : Nat} {ts rest : List Token}
    {items : List (Token × Expression)}
    (h : (parseItems scope b ts).outcome = .ok (items, rest)) :
    items ≠ [] ∧ Reads b ts rest (Listing · · (items.map Prod.snd)) := by
  rw [outcome_parseItems] at h
  cases hts : ts with
  | nil =>
    rw [hts] at h
    exact absurd h (by simp)
  | cons t after =>
    have hLength : ts.length = after.length + 1 := by rw [hts, List.length_cons]
    rw [hts] at h
    dsimp only at h
    obtain ⟨⟨value, r⟩, hValue, h⟩ := bind_eq_ok.1 h
    have hShort := outcome_shorter hValue
    have hFirst := parseSum_sound hValue
    dsimp only at h
    cases hr : r with
    | nil =>
      rw [hr] at h hFirst
      obtain ⟨rfl, rfl⟩ := Prod.mk.inj (Except.ok.inj h)
      exact ⟨by simp, hFirst.imp fun _ _ => .one⟩
    | cons separator more =>
      have hMore : r.length = more.length + 1 := by rw [hr, List.length_cons]
      rw [hr] at h hFirst
      dsimp only at h
      split at h
      · next hComma =>
        obtain ⟨⟨others, r'⟩, hOthers, h⟩ := bind_eq_ok.1 h
        obtain ⟨rfl, rfl⟩ := Prod.mk.inj (Except.ok.inj h)
        refine ⟨by simp, hFirst.join (parseItems_sound hOthers).2 ?_⟩
        intro d d' u v hu hv
        rw [Token.isComma_iff.1 hComma]
        exact .more hu hv
      · obtain ⟨rfl, rfl⟩ := Prod.mk.inj (Except.ok.inj h)
        exact ⟨by simp, hFirst.imp fun _ _ => .one⟩
  termination_by ts.length * 4 + 3
  decreasing_by all_goals simp only [List.length_cons] at *; omega

end

end GeoFilter.Cql
