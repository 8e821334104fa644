import GeoFilter.Record.View
import GeoFilter.Value.Compare

set_option autoImplicit false

/-! # Expressions

An expression yields a value for a record: a literal, an attribute of the record, the record's
default geometry, or the sum, difference, product or quotient of two expressions. Arithmetic is
that of doubles; where it does not yield a finite number the result is absent. -/

namespace GeoFilter

/-! ## Arithmetic -/

/-- An arithmetic operator. -/
inductive ArithmeticOp where
  | add
  | sub
  | mul
  | div
  deriving DecidableEq, Repr

namespace ArithmeticOp

/-- The symbol of an operator. -/
def symbol : ArithmeticOp → String
  | add => "+"
  | sub => "-"
  | mul => "*"
  | div => "/"

/-- All operators. -/
def all : List ArithmeticOp := [add, sub, mul, div]

/-- The result of an operator on two numbers; a quotient by zero has none. -/
def compute (op : ArithmeticOp) (x y : Float) : Option Float :=
  match op with
  | add => some (x + y)
  | sub => some (x - y)
  | mul => some (x * y)
  | div => if y == 0 then none else some (x / y)

/-- The result of an operator on two values that can be read as numbers; absent where there is
    no finite result. -/
def apply (op : ArithmeticOp) (v w : Value) : Value :=
  match v.asNumber, w.asNumber with
  | some x, some y =>
    match op.compute x y with
    | some z => if z.isFinite then .number z else .absent
    | none => .absent
  | _, _ => .absent

end ArithmeticOp

/-! ## Expressions -/

/-- An expression. -/
inductive Expression where
  | literal (value : Value)
  | attr (name : String)
  | defaultGeometry
  | arithmetic (op : ArithmeticOp) (left right : Expression)

namespace Expression

/-- The value that an expression yields for a record. -/
def evaluate (record : RecordView) : Expression → Value
  | literal value => value
  | attr name => record.lookup name
  | defaultGeometry =>
    match record.defaultGeometry with
    | some g => .geometry g
    | none => .absent
  | arithmetic op left right => op.apply (left.evaluate record) (right.evaluate record)

/-- The geometry that an expression yields for a record, if it yields one. The record's default
    geometry is taken as it is; the value of any other expression is read as a geometry. -/
def evaluateGeometry (record : RecordView) : Expression → Option Geometry
  | defaultGeometry => record.defaultGeometry
  | e => (e.evaluate record).asGeometry

/-- Both ways to a geometry read the value that the expression yields. -/
theorem evaluateGeometry_eq (record : RecordView) (e : Expression) :
    e.evaluateGeometry record = (e.evaluate record).asGeometry := by
  cases e with
  | defaultGeometry =>
    rw [evaluateGeometry, evaluate]
    cases record.defaultGeometry <;> rfl
  | literal => rfl
  | attr => rfl
  | arithmetic => rfl

/-- The attribute names that an expression mentions, from left to right. -/
def mentioned : Expression → List String
  | literal _ => []
  | attr name => [name]
  | defaultGeometry => []
  | arithmetic _ left right => left.mentioned ++ right.mentioned

/-- Structural equality. -/
def same : Expression → Expression → Bool
  | literal v, literal w => v.same w
  | attr a, attr b => a == b
  | defaultGeometry, defaultGeometry => true
  | arithmetic op l r, arithmetic op' l' r' => op == op' && l.same l' && r.same r'
  | _, _ => false

end Expression

end GeoFilter
