import GeoFilter.Filter.Accept
import GeoFilter.Proofs.Geometry.ZeroSign

set_option autoImplicit false

/-! # Equal filters accept the same records

Equality of filters compares the numbers in them as numbers, so equal filters may differ in the
signs of zeros. A filter has no way to see such a sign: what two equal expressions yield is alike
in arithmetic, in comparisons and as text. It is also alike in relation to other geometries, unless
the operation that relates them sees such a sign; to sets of points there is none. -/

namespace GeoFilter

/-! ## Values that differ in the signs of zeros at most -/

/-- The values differ in the signs of zeros at most. -/
inductive Value.Alike : Value → Value → Prop where
  | refl (v : Value) : Alike v v
  | number {x y : Float} (h : Number.withoutZeroSign x = Number.withoutZeroSign y) :
      Alike (.number x) (.number y)
  | geometry {g h : Geometry} (hSigns : g.withoutZeroSigns = h.withoutZeroSigns) :
      Alike (.geometry g) (.geometry h)

namespace Number

variable {x x' y y' : Float}

theorem order_congr (hx : withoutZeroSign x = withoutZeroSign x')
    (hy : withoutZeroSign y = withoutZeroSign y') : order x y = order x' y' := by
  rw [← order_withoutZeroSign, hx, hy, order_withoutZeroSign]

theorem canonical_congr (h : withoutZeroSign x = withoutZeroSign x') :
    canonical x = canonical x' := by
  rw [← canonical_withoutZeroSign, h, canonical_withoutZeroSign]

theorem isFinite_congr (h : withoutZeroSign x = withoutZeroSign x') :
    x.isFinite = x'.isFinite := by
  rw [← isFinite_withoutZeroSign, h, isFinite_withoutZeroSign]

end Number

theorem Geometry.same_congr {g g' h h' : Geometry} (hg : g.withoutZeroSigns = g'.withoutZeroSigns)
    (hh : h.withoutZeroSigns = h'.withoutZeroSigns) : g.same h = g'.same h' := by
  rw [← same_withoutZeroSigns, hg, hh, same_withoutZeroSigns]

/-- Geometries are related alike whatever signs zeros have. -/
def Relate.IgnoresZeroSigns [Relate] : Prop :=
  ∀ g h : Geometry, relate g.withoutZeroSigns h.withoutZeroSigns = relate g h

theorem Relate.exact_ignoresZeroSigns : @IgnoresZeroSigns exact := by
  intro g h
  show Planar.Matrix.ofFigures _ _ = Planar.Matrix.ofFigures _ _
  rw [Geometry.figure_withoutZeroSigns, Geometry.figure_withoutZeroSigns]

/-- A spatial predicate does not see the signs of zeros. -/
theorem SpatialOp.holds_congr [Relate] (hSigns : Relate.IgnoresZeroSigns) (op : SpatialOp)
    {g g' h h' : Geometry} (hg : g.withoutZeroSigns = g'.withoutZeroSigns)
    (hh : h.withoutZeroSigns = h'.withoutZeroSigns) : op.holds g h = op.holds g' h' := by
  have hHolds : ∀ g h : Geometry,
      op.holds g.withoutZeroSigns h.withoutZeroSigns = op.holds g h := by
    intro g h
    simp only [holds, Geometry.isFinite_withoutZeroSigns, hSigns g h]
  rw [← hHolds g h, hg, hh, hHolds]

namespace Value

variable {v v' w w' : Value}

theorem alike_of_same (h : v.same w = true) : v.Alike w := by
  cases v <;> cases w <;> try exact absurd h Bool.false_ne_true
  case absent.absent | null.null => exact .refl _
  case number.number => exact .number (Number.withoutZeroSign_eq_of_beq h)
  case text.text | bool.bool =>
    obtain rfl := eq_of_beq h
    exact .refl _
  case geometry.geometry => exact .geometry (Geometry.withoutZeroSigns_of_same _ _ h)

theorem Alike.isAbsent (h : v.Alike w) : v.isAbsent = w.isAbsent := by cases h <;> rfl

theorem Alike.asText (h : v.Alike w) : v.asText = w.asText := by
  cases h with
  | refl | geometry => rfl
  | number h => exact congrArg some (Number.canonical_congr h)

theorem Alike.asNumber (h : v.Alike w) :
    Option.Rel (Number.withoutZeroSign · = Number.withoutZeroSign ·) v.asNumber w.asNumber := by
  cases h with
  | refl =>
    cases v.asNumber with
    | none => exact .none
    | some x => exact .some rfl
  | number h => exact .some h
  | geometry => exact .none

theorem Alike.asGeometry (h : v.Alike w) :
    Option.Rel (Geometry.withoutZeroSigns · = Geometry.withoutZeroSigns ·)
      v.asGeometry w.asGeometry := by
  cases h with
  | refl =>
    cases v.asGeometry with
    | none => exact .none
    | some g => exact .some rfl
  | number => exact .none
  | geometry h => exact .some h

theorem orderNumberText_congr {x y : Float} (s : String)
    (h : Number.withoutZeroSign x = Number.withoutZeroSign y) :
    orderNumberText x s = orderNumberText y s := by
  unfold orderNumberText
  split
  · exact Number.order_congr h rfl
  · rw [Number.canonical_congr h]

theorem Alike.order_left (h : v.Alike v') (w : Value) : v.order w = v'.order w := by
  cases h with
  | refl => rfl
  | number h =>
    cases w with
    | number => exact Number.order_congr h rfl
    | text s => exact orderNumberText_congr s h
    | absent | null | bool | geometry => rfl
  | geometry => cases w <;> rfl

theorem Alike.order_right (v : Value) (h : w.Alike w') : v.order w = v.order w' := by
  cases h with
  | refl => rfl
  | number h =>
    cases v with
    | number => exact Number.order_congr rfl h
    | text s => exact congrArg (Option.map Ordering.swap) (orderNumberText_congr s h)
    | absent | null | bool | geometry => rfl
  | geometry => cases v <;> rfl

theorem Alike.equal_left (h : v.Alike v') (w : Value) : v.equal w = v'.equal w := by
  cases h with
  | refl => rfl
  | number h =>
    have hOrder := Alike.order_left (.number h) w
    cases w <;> exact congrArg (Option.map (· == .eq)) hOrder
  | geometry h =>
    cases w with
    | geometry => exact congrArg some (Geometry.same_congr h rfl)
    | text s => exact congrArg (Option.map · _) (funext fun _ => Geometry.same_congr rfl h)
    | absent | null | number | bool => rfl

theorem Alike.equal_right (v : Value) (h : w.Alike w') : v.equal w = v.equal w' := by
  cases h with
  | refl => rfl
  | number h =>
    have hOrder := Alike.order_right v (.number h)
    cases v <;> exact congrArg (Option.map (· == .eq)) hOrder
  | geometry h =>
    cases v with
    | geometry => exact congrArg some (Geometry.same_congr rfl h)
    | text s => exact congrArg (Option.map · _) (funext fun _ => Geometry.same_congr rfl h)
    | absent | null | number | bool => rfl

end Value

theorem CompareOp.holds_congr (op : CompareOp) {v v' w w' : Value} (hv : v.Alike v')
    (hw : w.Alike w') : op.holds v w = op.holds v' w' := by
  have hOrder := (hv.order_left w).trans (hw.order_right v')
  have hEqual := (hv.equal_left w).trans (hw.equal_right v')
  cases op <;> simp only [holds, hOrder, hEqual]

/-! ## Expressions -/

namespace ArithmeticOp

theorem compute_congr (op : ArithmeticOp) {x x' y y' : Float}
    (hx : Number.withoutZeroSign x = Number.withoutZeroSign x')
    (hy : Number.withoutZeroSign y = Number.withoutZeroSign y') :
    Option.Rel (Number.withoutZeroSign · = Number.withoutZeroSign ·)
      (op.compute x y) (op.compute x' y') := by
  cases op with
  | add => exact .some (Number.withoutZeroSign_add hx hy)
  | sub => exact .some (Number.withoutZeroSign_sub hx hy)
  | mul => exact .some (Number.withoutZeroSign_mul hx hy)
  | div =>
    have hZero : (y == 0) = (y' == 0) := by
      rw [← Number.withoutZeroSign_beq_withoutZeroSign, hy,
        Number.withoutZeroSign_beq_withoutZeroSign]
    simp only [compute, ← hZero]
    split
    · exact .none
    -- Only zeros have a sign to lose, so two divisors that are alike are one.
    · next hNe =>
      rw [Bool.not_eq_true] at hNe
      rw [Number.withoutZeroSign_eq_self hNe,
        Number.withoutZeroSign_eq_self (hZero ▸ hNe)] at hy
      subst hy
      exact .some (Number.withoutZeroSign_div hx y)

theorem apply_congr (op : ArithmeticOp) {v v' w w' : Value} (hv : v.Alike v')
    (hw : w.Alike w') : (op.apply v w).Alike (op.apply v' w') := by
  have hx := hv.asNumber
  have hy := hw.asNumber
  unfold apply
  generalize v.asNumber = x, v'.asNumber = x', w.asNumber = y, w'.asNumber = y' at hx hy ⊢
  cases hx with
  | none => exact .refl _
  | some hx =>
    cases hy with
    | none => exact .refl _
    | @some y y' hy =>
      have hz := op.compute_congr hx hy
      dsimp only
      generalize op.compute _ y = z, op.compute _ y' = z' at hz ⊢
      cases hz with
      | none => exact .refl _
      | some hz =>
        dsimp only
        rw [← Number.isFinite_congr hz]
        split
        · exact .number hz
        · exact .refl _

end ArithmeticOp

namespace Expression

/-- Equal expressions yield values that are alike. -/
theorem evaluate_alike (record : RecordView) {e e' : Expression} (h : e.same e' = true) :
    (e.evaluate record).Alike (e'.evaluate record) := by
  induction e generalizing e' with
  | literal v =>
    cases e' with
    | literal w => exact Value.alike_of_same h
    | attr | defaultGeometry | arithmetic => exact absurd h Bool.false_ne_true
  | attr name =>
    cases e' with
    | attr name' =>
      obtain rfl := eq_of_beq h
      exact .refl _
    | literal | defaultGeometry | arithmetic => exact absurd h Bool.false_ne_true
  | defaultGeometry =>
    cases e' with
    | defaultGeometry => exact .refl _
    | literal | attr | arithmetic => exact absurd h Bool.false_ne_true
  | arithmetic op left right ihLeft ihRight =>
    cases e' with
    | arithmetic op' left' right' =>
      rw [same, Bool.and_eq_true, Bool.and_eq_true] at h
      obtain ⟨⟨hOp, hLeft⟩, hRight⟩ := h
      obtain rfl := eq_of_beq hOp
      exact op.apply_congr (ihLeft hLeft) (ihRight hRight)
    | literal | attr | defaultGeometry => exact absurd h Bool.false_ne_true

end Expression

/-! ## Filters -/

namespace Filter

section

variable [Relate] (record : RecordView)

theorem spatial_congr (hSigns : Relate.IgnoresZeroSigns) (op : SpatialOp)
    {left left' right right' : Expression} (hLeft : left.same left' = true)
    (hRight : right.same right' = true) :
    (spatial op left right).accepts record = (spatial op left' right').accepts record := by
  have hg := (Expression.evaluate_alike record hLeft).asGeometry
  have hh := (Expression.evaluate_alike record hRight).asGeometry
  simp only [accepts, Expression.evaluateGeometry_eq]
  generalize (left.evaluate record).asGeometry = g, (left'.evaluate record).asGeometry = g',
    (right.evaluate record).asGeometry = h, (right'.evaluate record).asGeometry = h' at hg hh ⊢
  cases hg with
  | none => rfl
  | some hg =>
    cases hh with
    | none => rfl
    | some hh => exact op.holds_congr hSigns hg hh

theorem oneOf_congr {e e' : Expression} {cs cs' : List Expression} (negated : Bool)
    (h : e.same e' = true) (hCandidates : sameLists Expression.same cs cs' = true) :
    (oneOf e cs negated).accepts record = (oneOf e' cs' negated).accepts record := by
  have hValue := Expression.evaluate_alike record h
  have hEach : ∀ c c' : Expression, c.same c' = true →
      ((e'.evaluate record).equal (c.evaluate record) == some true)
        = ((e'.evaluate record).equal (c'.evaluate record) == some true) := by
    intro c c' hc
    rw [(Expression.evaluate_alike record hc).equal_right]
  have hFound := congrArg (List.any · id) (map_eq_of_sameLists _ hEach hCandidates)
  simp only [List.any_map, Function.comp_def, id_eq] at hFound
  simp only [accepts, hValue.isAbsent, hValue.equal_left, hFound]

theorem ids_congr {vs ws : List Value} (h : sameLists Value.same vs ws = true) :
    (ids vs).accepts record = (ids ws).accepts record := by
  have hTexts : vs.map Value.asText = ws.map Value.asText :=
    map_eq_of_sameLists Value.asText (fun _ _ hSame => (Value.alike_of_same hSame).asText) h
  have hAny : ∀ id : String, (vs.any fun v => v.asText == some id)
      = ws.any fun w => w.asText == some id := by
    intro id
    have hFound := congrArg (List.any · (· == some id)) hTexts
    simpa only [List.any_map, Function.comp_def] using hFound
  simp only [accepts, hAny]

mutual

/-- Equal filters accept the same records. -/
theorem accepts_of_same (hSigns : Relate.IgnoresZeroSigns) (f g : Filter) (h : f.same g = true) :
    f.accepts record = g.accepts record := by
  cases f <;> cases g <;> try exact absurd h Bool.false_ne_true
  case everything.everything | nothing.nothing => rfl
  case comparison.comparison op left right op' left' right' =>
    rw [same, Bool.and_eq_true, Bool.and_eq_true] at h
    obtain ⟨⟨hOp, hLeft⟩, hRight⟩ := h
    obtain rfl := eq_of_beq hOp
    exact op.holds_congr (Expression.evaluate_alike record hLeft)
      (Expression.evaluate_alike record hRight)
  case logic.logic op fs op' gs =>
    rw [same, Bool.and_eq_true] at h
    obtain rfl := eq_of_beq h.1
    have hOperands := map_accepts_of_same hSigns fs gs h.2
    have hAll := allAccept_of_map hOperands
    have hAny := anyAccepts_of_map hOperands
    cases op <;> simp only [accepts, hAll, hAny]
  case oneOf.oneOf e cs negated e' cs' negated' =>
    rw [same, Bool.and_eq_true, Bool.and_eq_true] at h
    obtain ⟨⟨hTested, hCandidates⟩, hNegated⟩ := h
    obtain rfl := eq_of_beq hNegated
    exact oneOf_congr record negated hTested hCandidates
  case like.like e pattern negated e' pattern' negated' =>
    rw [same, Bool.and_eq_true, Bool.and_eq_true] at h
    obtain ⟨⟨hTested, hPattern⟩, hNegated⟩ := h
    obtain rfl := eq_of_beq hPattern
    obtain rfl := eq_of_beq hNegated
    simp only [accepts, (Expression.evaluate_alike record hTested).asText]
  case isNull.isNull name negated name' negated' =>
    rw [same, Bool.and_eq_true] at h
    obtain rfl := eq_of_beq h.1
    obtain rfl := eq_of_beq h.2
    rfl
  case spatial.spatial op left right op' left' right' =>
    rw [same, Bool.and_eq_true, Bool.and_eq_true] at h
    obtain ⟨⟨hOp, hLeft⟩, hRight⟩ := h
    obtain rfl := eq_of_beq hOp
    exact spatial_congr record hSigns op hLeft hRight
  case ids.ids vs ws => exact ids_congr record h

theorem map_accepts_of_same (hSigns : Relate.IgnoresZeroSigns) (fs gs : List Filter)
    (h : sameOperands fs gs = true) : fs.map (·.accepts record) = gs.map (·.accepts record) := by
  cases fs with
  | nil =>
    cases gs with
    | nil => rfl
    | cons => exact absurd h Bool.false_ne_true
  | cons f fs =>
    cases gs with
    | nil => exact absurd h Bool.false_ne_true
    | cons g gs =>
      rw [sameOperands, Bool.and_eq_true] at h
      rw [List.map_cons, List.map_cons, accepts_of_same hSigns f g h.1,
        map_accepts_of_same hSigns fs gs h.2]

end

end

/-- The filters accept the same records, whatever operation relates geometries, if that does not see
    the signs of zeros. -/
def SameAnswers (f g : Filter) : Prop :=
  ∀ [Relate], Relate.IgnoresZeroSigns → ∀ record : RecordView, f.accepts record = g.accepts record

theorem sameAnswers_of_same {f g : Filter} (h : f.same g = true) : f.SameAnswers g :=
  fun hSigns record => accepts_of_same record hSigns f g h

end Filter

end GeoFilter
