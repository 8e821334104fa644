import GeoFilter.Filter.Accept
import GeoFilter.Record.Basic

set_option autoImplicit false

/-! # What a filter can observe of a record

Of the attributes of a record a filter sees those that it refers to, in an expression or by a test
for null, and no others. `Filter.attributes` lists exactly these names, so two records that agree
on them, on their default geometry and on their identifier are accepted or rejected together. -/

namespace GeoFilter

/-! ## References -/

/-- The expression has a reference to the attribute `name` somewhere in it. -/
inductive Expression.RefersTo (name : String) : Expression → Prop where
  | attr : RefersTo name (.attr name)
  | left {op : ArithmeticOp} {left right : Expression} (h : RefersTo name left) :
      RefersTo name (.arithmetic op left right)
  | right {op : ArithmeticOp} {left right : Expression} (h : RefersTo name right) :
      RefersTo name (.arithmetic op left right)

/-- The filter has a reference to the attribute `name`, or tests it for null, somewhere in it. -/
inductive Filter.RefersTo (name : String) : Filter → Prop where
  | comparisonLeft {op : CompareOp} {left right : Expression} (h : left.RefersTo name) :
      RefersTo name (.comparison op left right)
  | comparisonRight {op : CompareOp} {left right : Expression} (h : right.RefersTo name) :
      RefersTo name (.comparison op left right)
  | operand {op : LogicOp} {operands : List Filter} {f : Filter} (hMem : f ∈ operands)
      (h : RefersTo name f) : RefersTo name (.logic op operands)
  | tested {e : Expression} {candidates : List Expression} {negated : Bool}
      (h : e.RefersTo name) : RefersTo name (.oneOf e candidates negated)
  | candidate {e c : Expression} {candidates : List Expression} {negated : Bool}
      (hMem : c ∈ candidates) (h : c.RefersTo name) : RefersTo name (.oneOf e candidates negated)
  | matched {e : Expression} {pattern : LikePattern} {negated : Bool} (h : e.RefersTo name) :
      RefersTo name (.like e pattern negated)
  | nullTest {negated : Bool} : RefersTo name (.isNull name negated)
  | spatialLeft {op : SpatialOp} {left right : Expression} (h : left.RefersTo name) :
      RefersTo name (.spatial op left right)
  | spatialRight {op : SpatialOp} {left right : Expression} (h : right.RefersTo name) :
      RefersTo name (.spatial op left right)

theorem Expression.mem_mentioned {name : String} {e : Expression} :
    name ∈ e.mentioned ↔ e.RefersTo name := by
  constructor
  · intro h
    induction e with
    | literal | defaultGeometry => exact absurd h List.not_mem_nil
    | attr other =>
      obtain rfl := List.mem_singleton.1 h
      exact .attr
    | arithmetic op left right ihLeft ihRight =>
      rcases List.mem_append.1 h with h | h
      · exact .left (ihLeft h)
      · exact .right (ihRight h)
  · intro h
    induction h with
    | attr => exact List.mem_singleton_self name
    | left _ ih => exact List.mem_append_left _ ih
    | right _ ih => exact List.mem_append_right _ ih

namespace Filter

theorem mem_mentionedInAll {name : String} {fs : List Filter} :
    name ∈ mentionedInAll fs ↔ ∃ f ∈ fs, name ∈ f.mentioned := by
  induction fs with
  | nil => simp [mentionedInAll]
  | cons f fs ih => simp [mentionedInAll, ih]

mutual

theorem refersTo_of_mentioned {name : String} (f : Filter) (h : name ∈ f.mentioned) :
    f.RefersTo name := by
  cases f with
  | everything | nothing | ids => exact absurd h List.not_mem_nil
  | comparison op left right =>
    rcases List.mem_append.1 h with h | h
    · exact .comparisonLeft (Expression.mem_mentioned.1 h)
    · exact .comparisonRight (Expression.mem_mentioned.1 h)
  | logic op operands =>
    obtain ⟨f, hMem, hf⟩ := refersTo_of_mentionedInAll operands h
    exact .operand hMem hf
  | oneOf e candidates negated =>
    rcases List.mem_append.1 h with h | h
    · exact .tested (Expression.mem_mentioned.1 h)
    · obtain ⟨c, hMem, hc⟩ := List.mem_flatMap.1 h
      exact .candidate hMem (Expression.mem_mentioned.1 hc)
  | like e pattern negated => exact .matched (Expression.mem_mentioned.1 h)
  | isNull other negated =>
    obtain rfl := List.mem_singleton.1 h
    exact .nullTest
  | spatial op left right =>
    rcases List.mem_append.1 h with h | h
    · exact .spatialLeft (Expression.mem_mentioned.1 h)
    · exact .spatialRight (Expression.mem_mentioned.1 h)

theorem refersTo_of_mentionedInAll {name : String} (fs : List Filter)
    (h : name ∈ mentionedInAll fs) : ∃ f ∈ fs, f.RefersTo name := by
  cases fs with
  | nil => exact absurd h List.not_mem_nil
  | cons f fs =>
    rcases List.mem_append.1 h with h | h
    · exact ⟨f, List.mem_cons_self, refersTo_of_mentioned f h⟩
    · obtain ⟨g, hMem, hg⟩ := refersTo_of_mentionedInAll fs h
      exact ⟨g, List.mem_cons_of_mem f hMem, hg⟩

end

theorem mem_mentioned {name : String} {f : Filter} : name ∈ f.mentioned ↔ f.RefersTo name := by
  refine ⟨refersTo_of_mentioned f, ?_⟩
  intro h
  induction h with
  | comparisonLeft h | spatialLeft h | tested h =>
    exact List.mem_append_left _ (Expression.mem_mentioned.2 h)
  | comparisonRight h | spatialRight h =>
    exact List.mem_append_right _ (Expression.mem_mentioned.2 h)
  | operand hMem _ ih => exact mem_mentionedInAll.2 ⟨_, hMem, ih⟩
  | candidate hMem h =>
    have hc := List.mem_flatMap.2 ⟨_, hMem, Expression.mem_mentioned.2 h⟩
    exact List.mem_append_right _ hc
  | matched h => exact Expression.mem_mentioned.2 h
  | nullTest => exact List.mem_singleton_self name

theorem mem_attributes {name : String} {f : Filter} : name ∈ f.attributes ↔ f.RefersTo name :=
  mem_sorted.trans mem_mentioned

theorem attributes_ascending (f : Filter) : f.attributes.Pairwise (· < ·) := by
  have hAscending : Ascending (fun a b : String => a ≤ b) f.attributes := by
    apply ascending_sorted
    · intro a b c hab hbc
      exact decide_eq_true (String.le_trans (of_decide_eq_true hab) (of_decide_eq_true hbc))
    · intro a b
      simpa using String.le_total a b
    · intro a b hab hba
      exact String.le_antisymm (of_decide_eq_true hab) (of_decide_eq_true hba)
  refine hAscending.imp ?_
  rintro a b ⟨hle, hne⟩
  exact String.not_le.1 fun hba => hne (String.le_antisymm (of_decide_eq_true hle) hba)

end Filter

/-! ## Records that agree -/

/-- Two records have the same default geometry, the same identifier, and the same values under
    certain names. -/
structure RecordView.AgreeOn (names : String → Prop) (v w : RecordView) : Prop where
  lookup : ∀ name, names name → v.lookup name = w.lookup name
  defaultGeometry : v.defaultGeometry = w.defaultGeometry
  id : v.id = w.id

theorem RecordView.AgreeOn.mono {names names' : String → Prop} {v w : RecordView}
    (h : v.AgreeOn names' w) (hNames : ∀ name, names name → names' name) : v.AgreeOn names w :=
  ⟨fun name hName => h.lookup name (hNames name hName), h.defaultGeometry, h.id⟩

variable {v w : RecordView}

namespace Expression

theorem evaluate_congr {e : Expression} (h : v.AgreeOn (RefersTo · e) w) :
    e.evaluate v = e.evaluate w := by
  induction e with
  | literal => rfl
  | attr name => exact h.lookup name .attr
  | defaultGeometry => simp only [evaluate, h.defaultGeometry]
  | arithmetic op left right ihLeft ihRight =>
    have hLeft := ihLeft (h.mono fun _ => .left)
    have hRight := ihRight (h.mono fun _ => .right)
    simp only [evaluate, hLeft, hRight]

theorem evaluateGeometry_congr {e : Expression} (h : v.AgreeOn (RefersTo · e) w) :
    e.evaluateGeometry v = e.evaluateGeometry w := by
  simp only [evaluateGeometry_eq, evaluate_congr h]

end Expression

namespace Filter

section

variable [Relate]

mutual

/-- Records that agree on what a filter refers to are accepted or rejected together. -/
theorem accepts_congr {f : Filter} (h : v.AgreeOn (RefersTo · f) w) :
    f.accepts v = f.accepts w := by
  cases f with
  | everything | nothing => rfl
  | comparison op left right =>
    have hLeft := Expression.evaluate_congr (h.mono fun _ => .comparisonLeft)
    have hRight := Expression.evaluate_congr (h.mono fun _ => .comparisonRight)
    simp only [accepts, hLeft, hRight]
  | logic op operands =>
    have hOperands : ∀ f ∈ operands, v.AgreeOn (RefersTo · f) w :=
      fun f hMem => h.mono fun _ => .operand hMem
    cases op with
    | and => exact allAccept_congr hOperands
    | or => exact anyAccepts_congr hOperands
    | not => exact congrArg (! ·) (allAccept_congr hOperands)
  | oneOf e candidates negated =>
    have hTested := Expression.evaluate_congr (h.mono fun _ => .tested)
    have hCandidates : ∀ c ∈ candidates, c.evaluate v = c.evaluate w :=
      fun c hMem => Expression.evaluate_congr (h.mono fun _ => .candidate hMem)
    -- The candidates are only asked for their values, so the lists of values decide.
    have hFound := congrArg (List.any · fun x => (e.evaluate w).equal x == some true)
      (List.map_congr_left hCandidates)
    simp only [List.any_map, Function.comp_def] at hFound
    simp only [accepts, hTested, hFound]
  | like e pattern negated =>
    have hMatched := Expression.evaluate_congr (h.mono fun _ => .matched)
    simp only [accepts, hMatched]
  | isNull name negated => simp only [accepts, h.lookup name .nullTest]
  | spatial op left right =>
    have hLeft := Expression.evaluateGeometry_congr (h.mono fun _ => .spatialLeft)
    have hRight := Expression.evaluateGeometry_congr (h.mono fun _ => .spatialRight)
    simp only [accepts, hLeft, hRight]
  | ids candidates => simp only [accepts, h.id]

theorem allAccept_congr {fs : List Filter} (h : ∀ f ∈ fs, v.AgreeOn (RefersTo · f) w) :
    allAccept v fs = allAccept w fs := by
  cases fs with
  | nil => rfl
  | cons f fs =>
    have hFirst := accepts_congr (h f List.mem_cons_self)
    have hOthers := allAccept_congr fun g hMem => h g (List.mem_cons_of_mem f hMem)
    simp only [allAccept, hFirst, hOthers]

theorem anyAccepts_congr {fs : List Filter} (h : ∀ f ∈ fs, v.AgreeOn (RefersTo · f) w) :
    anyAccepts v fs = anyAccepts w fs := by
  cases fs with
  | nil => rfl
  | cons f fs =>
    have hFirst := accepts_congr (h f List.mem_cons_self)
    have hOthers := anyAccepts_congr fun g hMem => h g (List.mem_cons_of_mem f hMem)
    simp only [anyAccepts, hFirst, hOthers]

end

/-- The attributes of a filter are all that it observes: records that agree on them, on their
    default geometry and on their identifier are accepted or rejected together. They are the names
    that the filter refers to, in ascending order. -/
theorem attributes_suffice (f : Filter) :
    (∀ v w : RecordView, (∀ name ∈ f.attributes, v.lookup name = w.lookup name) →
      v.defaultGeometry = w.defaultGeometry → v.id = w.id → f.accepts v = f.accepts w) ∧
    (∀ name, name ∈ f.attributes ↔ f.RefersTo name) ∧ f.attributes.Pairwise (· < ·) := by
  refine ⟨?_, fun name => mem_attributes, attributes_ascending f⟩
  intro v w hLookup hGeometry hId
  exact accepts_congr ⟨fun name hName => hLookup name (mem_attributes.2 hName), hGeometry, hId⟩

end

/-- Two stores of which only one has a column that the filter does not refer to. -/
theorem attributes_suffice_other_column :
    let f : Filter := .logic .or [.comparison .lt (.attr "depth") (.literal (.number 5)),
      .oneOf (.attr "name") [.attr "depth", .literal .null] true, .isNull "kind" false]
    let v : RecordView :=
      (Record.ofList [("notes", .text "wreck"), ("name", .text "n"), ("depth", .number 9)]).view
    let w : RecordView :=
      ⟨fun name =>
        if name = "depth" then .number 9 else if name = "name" then .text "n" else .absent,
        none, none⟩
    (∀ name ∈ f.attributes, v.lookup name = w.lookup name) ∧
      v.defaultGeometry = w.defaultGeometry ∧ v.id = w.id ∧
      v.lookup "notes" ≠ w.lookup "notes" ∧ f.accepts v = f.accepts w := by
  intro f v w
  have hNames : f.attributes = ["depth", "kind", "name"] := by decide
  have hLookup : ∀ name ∈ f.attributes, v.lookup name = w.lookup name := by
    rw [hNames]
    simp only [List.forall_mem_cons, List.not_mem_nil, false_imp_iff, implies_true, and_true]
    exact ⟨rfl, rfl, rfl⟩
  have hNotes : v.lookup "notes" = .text "wreck" := rfl
  refine ⟨hLookup, rfl, rfl, ?_, (attributes_suffice f).1 v w hLookup rfl rfl⟩
  rw [hNotes]
  exact Value.noConfusion

end Filter

end GeoFilter
