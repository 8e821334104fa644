import GeoFilter.Proofs.Parser.Located.Basic
import GeoFilter.Proofs.Parser.Soundness.Expression

set_option autoImplicit false

/-! # Where errors in expressions point

Each parsing function for expressions hands on tokens of the source and fails at one of them. The
theorems call one another as the functions do. -/

namespace GeoFilter.Cql

variable {source : String} {limit : Nat}

/-! ## Single tokens -/

/-- The token that is expected, and what comes after it. -/
def TokenStands (source : String) (read : Token × List Token) : Prop :=
  read.1.StandsIn source ∧ AllStand source read.2

theorem expect_located {ts : List Token} (h : AllStand source ts) (test : Token → Bool)
    (expected : Expectation) :
    Located source (TokenStands source) (expect (.of source limit) test expected ts).outcome := by
  cases ts with
  | nil => exact .unexpected h expected
  | cons t ts =>
    rw [expect]
    split
    · exact .ok ⟨h.head, h.tail⟩
    · exact .unexpected h expected

theorem expectClosing_located {opened : Token} (hOpened : opened.StandsIn source)
    {ts : List Token} (h : AllStand source ts) :
    Located source (TokenStands source) (expectClosing (.of source limit) opened ts).outcome := by
  cases ts with
  | nil => exact .errorAt hOpened _
  | cons t ts => exact expect_located h _ _

/-! ## Expressions -/

theorem geometryLiteral_located {t : Token} (h : t.StandsIn source) (text : String) :
    Located source (fun _ => True) (geometryLiteral t text) := by
  unfold geometryLiteral
  split
  · exact .ok trivial
  · exact .errorAt h _

theorem notAValue_located {α : Type} {post : α → Prop} {t : Token} (h : t.StandsIn source)
    (name : String) : Located source post (.error (notAValue t name)) := by
  unfold notAValue
  split
  · exact .errorAt h _
  · exact .errorAt h _

/-- The first token of each item, and the tokens after the items. -/
def ItemsStand (source : String) (read : List (Token × Expression) × List Token) : Prop :=
  (∀ item ∈ read.1, item.1.StandsIn source) ∧ AllStand source read.2

theorem itemsStand_nil {rest : List Token} (h : AllStand source rest) :
    ItemsStand source ([], rest) := ⟨(fun _ hMem => nomatch hMem), h⟩

theorem itemsStand_cons {t : Token} {e : Expression} {items : List (Token × Expression)}
    {rest : List Token} (ht : t.StandsIn source) (h : ItemsStand source (items, rest)) :
    ItemsStand source ((t, e) :: items, rest) := by
  refine ⟨?_, h.2⟩
  intro item hMem
  rcases List.mem_cons.1 hMem with rfl | hMem
  · exact ht
  · exact h.1 item hMem

mutual

theorem parseSum_located {b : Nat} (ts : List Token) : AllStand source ts →
    Located source (RestStands source) (parseSum (.of source limit) b ts).outcome := by
  rw [outcome_parseSum]
  intro h
  refine (parseOperand_located ts h).bind ?_
  rintro ⟨operand, rest⟩ hOperand hRest
  have hShort := outcome_shorter hOperand
  refine (parseFactors_located operand rest hRest).bind ?_
  rintro ⟨product, rest'⟩ hProduct hRest'
  have hShort' : rest'.length < rest.length + 1 := outcome_shorter hProduct
  exact parseTerms_located product rest' hRest'
  termination_by ts.length * 4 + 2
  decreasing_by all_goals omega

theorem parseTerms_located {b : Nat} (left : Expression) (ts : List Token) : AllStand source ts →
    Located source (RestStands source) (parseTerms (.of source limit) b left ts).outcome := by
  rw [outcome_parseTerms]
  cases ts with
  | nil => exact fun h => .ok h
  | cons t rest =>
    intro h
    dsimp only
    split
    · next op _ =>
      split
      · exact .ok h
      · refine (parseOperand_located rest h.tail).bind ?_
        rintro ⟨operand, r⟩ hOperand hRest
        have hShort := outcome_shorter hOperand
        refine (parseFactors_located operand r hRest).bind ?_
        rintro ⟨right, r'⟩ hRight hRest'
        have hShort' : r'.length < r.length + 1 := outcome_shorter hRight
        exact parseTerms_located (.arithmetic op left right) r' hRest'
    · exact .ok h
  termination_by ts.length * 4
  decreasing_by all_goals simp only [List.length_cons] at *; omega

theorem parseFactors_located {b : Nat} (left : Expression) (ts : List Token) :
    AllStand source ts →
    Located source (RestStands source) (parseFactors (.of source limit) b left ts).outcome := by
  rw [outcome_parseFactors]
  cases ts with
  | nil => exact fun h => .ok h
  | cons t rest =>
    intro h
    dsimp only
    split
    · next op _ =>
      split
      · refine (parseOperand_located rest h.tail).bind ?_
        rintro ⟨right, r⟩ hRight hRest
        have hShort := outcome_shorter hRight
        exact parseFactors_located (.arithmetic op left right) r hRest
      · exact .ok h
    · exact .ok h
  termination_by ts.length * 4
  decreasing_by all_goals simp only [List.length_cons] at *; omega

theorem parseOperand_located {b : Nat} (ts : List Token) : AllStand source ts →
    Located source (RestStands source) (parseOperand (.of source limit) b ts).outcome := by
  rw [outcome_parseOperand]
  cases ts with
  | nil => exact fun h => .unexpected h _
  | cons t rest =>
    intro h
    dsimp only
    split
    · cases b with
      | zero => exact .tooDeep h.tail
      | succ b => exact (parseOperand_located rest h.tail).map fun _ hRest => hRest
    · exact parsePrimary_located h.head rest h.tail
  termination_by ts.length * 4 + 1
  decreasing_by all_goals simp only [List.length_cons] at *; omega

theorem parsePrimary_located {b : Nat} {t : Token} (ht : t.StandsIn source) (ts : List Token) :
    AllStand source ts →
    Located source (RestStands source) (parsePrimary (.of source limit) b t ts).outcome := by
  rw [outcome_parsePrimary]
  split
  · exact fun h => .ok h
  · exact fun h => .ok h
  · exact fun h => .ok h
  · exact fun h => .ok h
  · exact fun h => .ok h
  · next text _ =>
    intro h
    exact (geometryLiteral_located ht text).map fun _ _ => h
  · exact fun h => .ok h
  · next name _ =>
    cases ts with
    | nil => exact fun h => .ok h
    | cons opened after =>
      intro h
      dsimp only
      split
      · split
        · refine (parseArguments_located h.head after h.tail).bind ?_
          rintro ⟨arguments, rest⟩ - hItems
          dsimp only
          split
          · exact .ok hItems.2
          · exact .errorAt ht _
        · exact notAValue_located ht name
      · exact .ok h
  · intro h
    cases b with
    | zero => exact .tooDeep h
    | succ b =>
      refine (parseSum_located ts h).bind ?_
      rintro ⟨inner, rest⟩ - hRest
      exact (expectClosing_located ht hRest).map fun _ hClosing => hClosing.2
  · exact fun h => .unexpected (allStand_cons ht h) _
  termination_by (ts.length + 1) * 4
  decreasing_by all_goals simp only [List.length_cons] at *; omega

theorem parseArguments_located {b : Nat} {opened : Token} (hOpened : opened.StandsIn source)
    (ts : List Token) : AllStand source ts →
    Located source (ItemsStand source) (parseArguments (.of source limit) b opened ts).outcome := by
  rw [outcome_parseArguments]
  cases ts with
  | nil => exact fun h => .unexpected h _
  | cons t rest =>
    intro h
    dsimp only
    split
    · exact .ok <| itemsStand_nil h.tail
    · refine (parseItems_located (t :: rest) h).bind ?_
      rintro ⟨items, r⟩ - hItems
      exact (expectClosing_located hOpened hItems.2).map fun _ hClosing => ⟨hItems.1, hClosing.2⟩
  termination_by ts.length * 4 + 4
  decreasing_by all_goals simp only [List.length_cons] at *; omega

theorem parseItems_located {b : Nat} (ts : List Token) : AllStand source ts →
    Located source (ItemsStand source) (parseItems (.of source limit) b ts).outcome := by
  rw [outcome_parseItems]
  cases ts with
  | nil => exact fun h => .unexpected h _
  | cons t rest =>
    intro h
    refine (parseSum_located (t :: rest) h).bind ?_
    rintro ⟨value, r⟩ hValue hRest
    have hShort := outcome_shorter hValue
    cases r with
    | nil => exact .ok <| itemsStand_cons h.head (itemsStand_nil hRest)
    | cons separator more =>
      dsimp only
      split
      · exact (parseItems_located more hRest.tail).map fun _ hItems =>
          itemsStand_cons h.head hItems
      · exact .ok <| itemsStand_cons h.head (itemsStand_nil hRest)
  termination_by ts.length * 4 + 3
  decreasing_by all_goals simp only [List.length_cons] at *; omega

end

end GeoFilter.Cql
