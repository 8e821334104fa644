import GeoFilter.Proofs.Printer.Geometry
import GeoFilter.Proofs.Printer.Printable

set_option autoImplicit false

/-! # Printed expressions are read back

A printed literal is a number after at most one minus sign, or a single token; a printed name is
a word or quoted; and a combination stands in parentheses. So every printed expression binds like
an operand, and what is read is the expression again. -/

namespace GeoFilter

open Cql Cql.Grammar

/-- The text of the first expression is read as the second, with the levels counted. -/
def Expression.ReadAs (e e' : Expression) : Prop :=
  ∃ ks, Yields e.cqlChars ks ∧ Arithmetic .unary e.nesting ks e'

/-! ## Literals -/

theorem readAs_number {x : Float} (h : x.isFinite = true) :
    (Expression.literal (.number x)).ReadAs (.literal (.number (Number.withoutZeroSign x))) :=
  number_reads h

theorem Value.Printable.reads_back {v : Value} (h : v.Printable) :
    ∃ w, (Expression.literal v).ReadAs (.literal w) ∧ w.same v = true := by
  cases v with
  | absent => exact absurd h id
  | null => exact ⟨.null, ⟨_, yields_keyword .NULL, .operand .null⟩, rfl⟩
  | number x => exact ⟨_, readAs_number h, Number.withoutZeroSign_beq h⟩
  | text s => exact ⟨.text s, ⟨_, yields_text s, .operand (.text s)⟩, by simp [same]⟩
  | bool b =>
    cases b with
    | false => exact ⟨.bool false, ⟨_, yields_keyword .FALSE, .operand .false⟩, rfl⟩
    | true => exact ⟨.bool true, ⟨_, yields_keyword .TRUE, .operand .true⟩, rfl⟩
  | geometry g =>
    obtain ⟨ks, g', hYields, hArithmetic, hSame⟩ := geometry_reads h
    exact ⟨.geometry g', ⟨ks, hYields, .operand hArithmetic⟩, hSame⟩

/-! ## Expressions -/

theorem arithmetic_name (name : String) :
    Arithmetic .primary 0 [nameToken name] (.attr name) := by
  unfold nameToken
  split
  · exact .name name
  · exact .quotedName name

theorem sum_of_unary {d : ℕ} {ks : List TokenKind} {e : Expression} (h : Arithmetic .unary d ks e) :
    Arithmetic .sum d ks e := .term (.factor h)

/-- An operator between two operands. -/
theorem arithmetic_combined {d d' : ℕ} {u v : List TokenKind} {left right : Expression}
    (op : ArithmeticOp) (hLeft : Arithmetic .unary d u left)
    (hRight : Arithmetic .unary d' v right) :
    Arithmetic .sum (max d d') (u ++ .arithmetic op :: v) (.arithmetic op left right) := by
  cases op with
  | add => exact .terms (sum_of_unary hLeft) (.inl rfl) (.factor hRight)
  | sub => exact .terms (sum_of_unary hLeft) (.inr rfl) (.factor hRight)
  | mul => exact .term (.factors (.factor hLeft) (.inl rfl) hRight)
  | div => exact .term (.factors (.factor hLeft) (.inr rfl) hRight)

/-- A printed combination stands in parentheses, so that its operator needs no precedence. -/
theorem readAs_arithmetic {left right left' right' : Expression} (op : ArithmeticOp)
    (hLeft : left.ReadAs left') (hRight : right.ReadAs right') :
    (Expression.arithmetic op left right).ReadAs (.arithmetic op left' right') := by
  obtain ⟨u, hYields, hLeft⟩ := hLeft
  obtain ⟨v, hYields', hRight⟩ := hRight
  have hText : Yields
      ('(' :: (left.cqlChars ++ ' ' :: (op.symbol.toList ++ ' ' :: (right.cqlChars ++ [')']))))
      (.opening :: (u ++ .arithmetic op :: v ++ [.closing])) := by
    have hCombined := (hYields.space ((yields_arithmetic op).space hYields')).enclosed
    simpa only [List.append_assoc, List.cons_append, List.nil_append] using hCombined
  exact ⟨_, hText, .operand (.group (arithmetic_combined op hLeft hRight))⟩

/-- A printed expression is read as an equal expression. -/
theorem Expression.Printable.reads_back {e : Expression} (h : e.Printable) :
    ∃ e', e.ReadAs e' ∧ e'.same e = true := by
  induction e with
  | literal v =>
    obtain ⟨w, hRead, hSame⟩ := Value.Printable.reads_back h
    exact ⟨.literal w, hRead, hSame⟩
  | attr name =>
    exact ⟨.attr name, ⟨_, yields_name name, .operand (arithmetic_name name)⟩, by simp [same]⟩
  | defaultGeometry =>
    have hNothing : Yields [] [] := fun _ _ => .done
    have hCall : Yields ("geometry".toList ++ '(' :: ([] ++ [')']))
        [.name "geometry", .opening, .closing] := hNothing.call (by decide)
    exact ⟨.defaultGeometry, ⟨_, hCall, .operand (.defaultGeometry (by decide))⟩, rfl⟩
  | arithmetic op left right ihLeft ihRight =>
    obtain ⟨left', hLeft, hSame⟩ := ihLeft h.1
    obtain ⟨right', hRight, hSame'⟩ := ihRight h.2
    exact ⟨.arithmetic op left' right', readAs_arithmetic op hLeft hRight,
      by simp [same, hSame, hSame']⟩

/-! ## Lists -/

theorem joinWith_cons {separator part : List Char} {parts : List (List Char)} (h : parts ≠ []) :
    joinWith separator (part :: parts) = part ++ separator ++ joinWith separator parts := by
  cases parts with
  | nil => exact absurd rfl h
  | cons next parts => rfl

theorem toList_commaSpace : ", ".toList = [',', ' '] := rfl

/-- A printed list is read item by item. -/
theorem listing_of_readAs {es es' : List Expression} (hNe : es ≠ [])
    (h : List.Forall₂ Expression.ReadAs es es') :
    ∃ ks, Yields (joinWith ", ".toList (es.map Expression.cqlChars)) ks ∧
      Listing (greatest (es.map Expression.nesting)) ks es' := by
  induction h with
  | nil => exact absurd rfl hNe
  | @cons e e' es es' hFirst hOthers ih =>
    obtain ⟨u, hYields, hFirst⟩ := hFirst
    by_cases hEs : es = []
    · subst hEs
      cases hOthers
      -- The greatest level of a single item is compared with zero once more.
      have hOne := Listing.one (sum_of_unary hFirst)
      rw [← Nat.max_zero e.nesting] at hOne
      exact ⟨u, hYields, hOne⟩
    · obtain ⟨v, hYields', hOthers⟩ := ih hEs
      have hMap : es.map Expression.cqlChars ≠ [] := by simpa using hEs
      refine ⟨u ++ .comma :: v, ?_, .more (sum_of_unary hFirst) hOthers⟩
      rw [List.map_cons, joinWith_cons hMap, toList_commaSpace, List.append_assoc]
      exact hYields.comma hYields'

theorem readAs_of_printable {es : List Expression} (h : ∀ e ∈ es, e.Printable) :
    ∃ es', List.Forall₂ Expression.ReadAs es es' ∧ sameLists Expression.same es' es = true := by
  induction es with
  | nil => exact ⟨[], .nil, rfl⟩
  | cons e es ih =>
    obtain ⟨e', hFirst, hSame⟩ := (h e List.mem_cons_self).reads_back
    obtain ⟨es', hOthers, hSame'⟩ := ih fun e₂ hMem => h e₂ (List.mem_cons_of_mem e hMem)
    exact ⟨e' :: es', .cons hFirst hOthers, by simp [sameLists, hSame, hSame']⟩

theorem readAs_literals {vs : List Value} (h : ∀ v ∈ vs, v.Printable) :
    ∃ ws, List.Forall₂ Expression.ReadAs (vs.map .literal) (ws.map .literal) ∧
      sameLists Value.same ws vs = true := by
  induction vs with
  | nil => exact ⟨[], .nil, rfl⟩
  | cons v vs ih =>
    obtain ⟨w, hFirst, hSame⟩ := (h v List.mem_cons_self).reads_back
    obtain ⟨ws, hOthers, hSame'⟩ := ih fun v₂ hMem => h v₂ (List.mem_cons_of_mem v hMem)
    exact ⟨w :: ws, .cons hFirst hOthers, by simp [sameLists, hSame, hSame']⟩

end GeoFilter
