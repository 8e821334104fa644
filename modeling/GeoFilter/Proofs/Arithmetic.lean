import GeoFilter.Expression
import GeoFilter.Proofs.Number.ZeroSign

set_option autoImplicit false

/-! # Finite operands and finite results

A sum, a difference or a product is finite only if both operands are. A quotient is finite also
where a finite number is divided by an infinite one: it is then a zero. Text is never read as an
infinite number, so this happens only where the divisor is an infinite number itself. -/

namespace GeoFilter

/-! ## Doubles -/

namespace Number

open Float.Model Float.Model.UnpackedFloat

theorem isFinite_of_ofUnpacked {u : UnpackedFloat} (h : (ofUnpacked u).isFinite = true) :
    u.isFinite = true := by
  have hInfinity : ∀ s : Sign, (ofUnpacked (.infinity s)).isFinite = false := by decide
  cases u with
  | infinity s =>
    rw [hInfinity] at h
    exact absurd h Bool.false_ne_true
  | notANumber => exact absurd h (by decide)
  | zero | finite => rfl

/-- The result of an operation is finite only if both operands are. -/
def NeedsFinite (op : UnpackedFloat → UnpackedFloat → UnpackedFloat) : Prop :=
  ∀ u v, (op u v).isFinite = true → u.isFinite = true ∧ v.isFinite = true

theorem needsFinite_add : NeedsFinite (.add Format.binary64) := by
  intro u v h
  cases u with
  | notANumber => exact absurd h Bool.false_ne_true
  | infinity s =>
    cases v with
    -- Infinities of one sign add up to themselves, and others to NaN.
    | infinity s' =>
      rw [UnpackedFloat.add] at h
      split at h <;> exact absurd h Bool.false_ne_true
    | notANumber | zero | finite => exact absurd h Bool.false_ne_true
  | zero | finite =>
    cases v with
    | notANumber | infinity => exact absurd h Bool.false_ne_true
    | zero | finite => exact ⟨rfl, rfl⟩

theorem needsFinite_sub : NeedsFinite (.sub Format.binary64) := by
  intro u v h
  cases u with
  | notANumber => exact absurd h Bool.false_ne_true
  | infinity s =>
    cases v with
    | infinity s' =>
      rw [UnpackedFloat.sub] at h
      split at h <;> exact absurd h Bool.false_ne_true
    | notANumber | zero | finite => exact absurd h Bool.false_ne_true
  | zero | finite =>
    cases v with
    | notANumber | infinity => exact absurd h Bool.false_ne_true
    | zero | finite => exact ⟨rfl, rfl⟩

theorem needsFinite_mul : NeedsFinite (.mul Format.binary64) := by
  intro u v h
  cases u with
  | notANumber => exact absurd h Bool.false_ne_true
  | infinity => cases v <;> exact absurd h Bool.false_ne_true
  | zero | finite =>
    cases v with
    | notANumber | infinity => exact absurd h Bool.false_ne_true
    | zero | finite => exact ⟨rfl, rfl⟩

section

variable {x y : Float}

/-- What unpacked numbers need, doubles need. -/
theorem NeedsFinite.operands {op : UnpackedFloat → UnpackedFloat → UnpackedFloat}
    (hOp : NeedsFinite op)
    (h : (ofUnpacked (op x.toModel.unpack y.toModel.unpack)).isFinite = true) :
    x.isFinite = true ∧ y.isFinite = true := hOp _ _ (isFinite_of_ofUnpacked h)

/-- A finite quotient has a finite number above the line, and below it one that is not NaN. -/
theorem isFinite_of_div (h : (x / y).isFinite = true) :
    x.isFinite = true ∧ (y.isFinite = true ∨ y.isInf = true) := by
  have hUnpacked : ∀ u v : UnpackedFloat, (UnpackedFloat.div Format.binary64 u v).isFinite = true →
      u.isFinite = true ∧ (v.isFinite = true ∨ v.isInf = true) := by
    intro u v h
    cases u with
    | notANumber => exact absurd h Bool.false_ne_true
    | infinity => cases v <;> exact absurd h Bool.false_ne_true
    | zero | finite =>
      cases v with
      | notANumber => exact absurd h Bool.false_ne_true
      | infinity => exact ⟨rfl, .inr rfl⟩
      | zero | finite => exact ⟨rfl, .inl rfl⟩
  exact hUnpacked _ _ (isFinite_of_ofUnpacked h)

/-- A finite number divided by an infinite one is a zero. -/
theorem div_of_isInf (hx : x.isFinite = true) (hy : y.isInf = true) :
    ∃ s, x / y = ofUnpacked (.zero s) := by
  have hUnpacked : ∀ u v : UnpackedFloat, u.isFinite = true → v.isInf = true →
      ∃ s, UnpackedFloat.div Format.binary64 u v = .zero s := by
    intro u v hu hv
    cases v with
    | infinity s =>
      cases u with
      | zero | finite => exact ⟨_, rfl⟩
      | notANumber | infinity => exact absurd hu Bool.false_ne_true
    | notANumber | zero | finite => exact absurd hv Bool.false_ne_true
  obtain ⟨s, hs⟩ := hUnpacked x.toModel.unpack y.toModel.unpack hx hy
  exact ⟨s, congrArg ofUnpacked hs⟩

theorem not_isInf_of_isFinite (h : x.isFinite = true) : x.isInf = false := by
  have hUnpacked : ∀ u : UnpackedFloat, u.isFinite = true → u.isInf = false := by
    intro u hu
    cases u with
    | notANumber | infinity => exact absurd hu Bool.false_ne_true
    | zero | finite => rfl
  exact hUnpacked x.toModel.unpack h

/-- An infinite number is not zero. -/
theorem beq_zero_of_isInf (h : x.isInf = true) : (x == 0) = false := by
  have hUnpacked : ∀ u : UnpackedFloat, u.isInf = true →
      u.compare (0 : Float).toModel.unpack ≠ some .eq := by
    intro u hu
    cases u with
    | infinity s => cases s <;> decide
    | notANumber | zero | finite => exact absurd hu Bool.false_ne_true
  rw [← Bool.not_eq_true, beq_iff]
  exact hUnpacked x.toModel.unpack h

end

/-- Text is read as finite numbers only. -/
theorem isFinite_of_ofText? {s : String} {x : Float} (h : ofText? s = some x) :
    x.isFinite = true := (Option.filter_eq_some_iff.1 h).2

end Number

/-! ## Values -/

/-- An infinite number is never read from text. -/
theorem Value.eq_number_of_isInf {v : Value} {x : Float} (h : v.asNumber = some x)
    (hx : x.isInf = true) : v = number x := by
  cases v with
  | number y =>
    obtain rfl := Option.some.inj h
    rfl
  | text s =>
    rw [Number.not_isInf_of_isFinite (Number.isFinite_of_ofText? h)] at hx
    exact absurd hx Bool.false_ne_true
  | absent | null | bool | geometry => exact nomatch h

namespace ArithmeticOp

/-- Only a quotient by a zero, of whichever sign, has no result. -/
theorem compute_eq_none_iff (op : ArithmeticOp) (x y : Float) :
    op.compute x y = none ↔ op = .div ∧ (y == 0) = true := by
  cases op with
  | add | sub | mul => simp [compute]
  | div => simp [compute]

/-- A finite result comes from finite operands, or from a quotient by an infinite number. -/
theorem operands_of_compute {op : ArithmeticOp} {x y z : Float} (h : op.compute x y = some z)
    (hz : z.isFinite = true) :
    x.isFinite = true ∧ (y.isFinite = true ∨ op = .div ∧ y.isInf = true) := by
  have hBoth : x.isFinite = true ∧ y.isFinite = true →
      x.isFinite = true ∧ (y.isFinite = true ∨ op = .div ∧ y.isInf = true) :=
    fun ⟨hx, hy⟩ => ⟨hx, .inl hy⟩
  cases op with
  | add =>
    obtain rfl := Option.some.inj h
    exact hBoth (Number.needsFinite_add.operands hz)
  | sub =>
    obtain rfl := Option.some.inj h
    exact hBoth (Number.needsFinite_sub.operands hz)
  | mul =>
    obtain rfl := Option.some.inj h
    exact hBoth (Number.needsFinite_mul.operands hz)
  | div =>
    simp only [compute] at h
    split at h
    · exact absurd h (by simp)
    · obtain rfl := Option.some.inj h
      obtain ⟨hx, hy⟩ := Number.isFinite_of_div hz
      exact ⟨hx, hy.imp_right fun hy => ⟨rfl, hy⟩⟩

theorem apply_eq_number {op : ArithmeticOp} {v w : Value} {z : Float} :
    op.apply v w = .number z ↔ ∃ x y, v.asNumber = some x ∧ w.asNumber = some y ∧
      op.compute x y = some z ∧ z.isFinite = true := by
  unfold apply
  constructor
  · intro h
    split at h
    · next x y hv hw =>
      split at h
      · next z' hz =>
        split at h
        · next hFinite =>
          obtain rfl := Value.number.inj h
          exact ⟨x, y, hv, hw, hz, hFinite⟩
        · exact nomatch h
      · exact nomatch h
    · exact nomatch h
  · rintro ⟨x, y, hv, hw, hz, hFinite⟩
    simp only [hv, hw, hz, hFinite, if_true]

theorem apply_number_or_absent (op : ArithmeticOp) (v w : Value) :
    (∃ z, op.apply v w = .number z) ∨ op.apply v w = .absent := by
  unfold apply
  split
  · split
    · next z _ =>
      split
      · exact .inl ⟨z, rfl⟩
      · exact .inr rfl
    · exact .inr rfl
  · exact .inr rfl

/-- A finite number divided by an infinite one is a zero, which is finite. -/
theorem apply_div_of_isInf {v : Value} {x y : Float} (hv : v.asNumber = some x)
    (hx : x.isFinite = true) (hy : y.isInf = true) :
    ∃ z, ArithmeticOp.div.apply v (.number y) = .number z ∧ (z == 0) = true := by
  have hZero : ∀ s, (Number.ofUnpacked (.zero s)).isFinite = true ∧
      (Number.ofUnpacked (.zero s) == 0) = true := by decide
  obtain ⟨s, hs⟩ := Number.div_of_isInf hx hy
  refine ⟨x / y, apply_eq_number.2 ⟨x, y, hv, rfl, ?_, ?_⟩, ?_⟩
  · rw [compute, Number.beq_zero_of_isInf hy]
    rfl
  · rw [hs]
    exact (hZero s).1
  · rw [hs]
    exact (hZero s).2

/-- Arithmetic yields a number exactly if both operands are read as finite numbers, the divisor of a
    quotient is not zero, and the result is finite; and in one more case, the quotient of a finite
    number by an infinite one, which is a zero. Everything else yields an absent value. -/
theorem apply_of_finite (op : ArithmeticOp) (v w : Value) :
    (∀ z, op.apply v w = .number z ↔ ∃ x y, v.asNumber = some x ∧ w.asNumber = some y ∧
      x.isFinite = true ∧ (y.isFinite = true ∨ op = .div ∧ w = .number y ∧ y.isInf = true) ∧
      op.compute x y = some z ∧ z.isFinite = true) ∧
    (∀ x y, op.compute x y = none ↔ op = .div ∧ (y == 0) = true) ∧
    ((∃ z, op.apply v w = .number z) ∨ op.apply v w = .absent) ∧
    ∀ x y, v.asNumber = some x → x.isFinite = true → y.isInf = true →
      ∃ z, ArithmeticOp.div.apply v (.number y) = .number z ∧ (z == 0) = true := by
  refine ⟨?_, compute_eq_none_iff op, apply_number_or_absent op v w,
    fun x y => apply_div_of_isInf⟩
  intro z
  rw [apply_eq_number]
  constructor
  · rintro ⟨x, y, hv, hw, hz, hFinite⟩
    obtain ⟨hx, hy⟩ := operands_of_compute hz hFinite
    refine ⟨x, y, hv, hw, hx, ?_, hz, hFinite⟩
    exact hy.imp_right fun ⟨hDiv, hInf⟩ => ⟨hDiv, Value.eq_number_of_isInf hw hInf, hInf⟩
  · rintro ⟨x, y, hv, hw, -, -, hz, hFinite⟩
    exact ⟨x, y, hv, hw, hz, hFinite⟩

/-- Text that is a number is divided by minus infinity. -/
theorem apply_of_finite_text :
    (∃ x, Value.asNumber (.text " 2e3 ") = some x ∧ x.isFinite = true ∧
      (-Float.inf).isInf = true) ∧
    ∃ z, ArithmeticOp.div.apply (.text " 2e3 ") (.number (-Float.inf)) = .number z ∧
      (z == 0) = true := by
  have hText : ∃ x, Value.asNumber (.text " 2e3 ") = some x ∧ x.isFinite = true := by
    cases hRead : Value.asNumber (.text " 2e3 ") with
    | none => exact absurd hRead (by decide +kernel)
    | some x => exact ⟨x, rfl, Number.isFinite_of_ofText? hRead⟩
  obtain ⟨x, hx, hFinite⟩ := hText
  have hInf : (-Float.inf).isInf = true := by decide
  have hApply := apply_of_finite .div (.text " 2e3 ") (.number (-Float.inf))
  exact ⟨⟨x, hx, hFinite, hInf⟩, hApply.2.2.2 x _ hx hFinite hInf⟩

/-- One divided by infinity is the number zero, though the divisor is not finite. -/
theorem one_div_infinity :
    Float.inf.isFinite = false ∧
      ArithmeticOp.div.apply (.number 1) (.number Float.inf) = .number 0 ∧
      ¬ ∀ (op : ArithmeticOp) (v w : Value) (z : Float), op.apply v w = .number z →
        ∃ x y, v.asNumber = some x ∧ w.asNumber = some y ∧ x.isFinite = true ∧
          y.isFinite = true := by
  have hZero : ArithmeticOp.div.apply (.number 1) (.number Float.inf) = .number 0 := by
    refine apply_eq_number.2 ⟨1, Float.inf, rfl, rfl, ?_, ?_⟩ <;> decide
  have hInf : Float.inf.isFinite = false := by decide
  refine ⟨hInf, hZero, ?_⟩
  intro hFinite
  obtain ⟨x, y, -, hy, -, hyFinite⟩ := hFinite _ _ _ _ hZero
  obtain rfl := Option.some.inj hy
  rw [hInf] at hyFinite
  exact Bool.false_ne_true hyFinite

end ArithmeticOp

end GeoFilter
