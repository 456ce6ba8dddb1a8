import DocQuery.Eval.Error
import DocQuery.Number.Rounding
import DocQuery.Value.Form

/-! Arithmetic: exact on integers, with an error where a result leaves 64 bits, and rounded as soon as
a double takes part. -/
namespace DocQuery

namespace Number

def toValue : Number → Value
  | integer i => .integer i
  | double d => .double d

def toDouble : Number → Double
  | integer i => .ofInt i.toInt
  | double d => d

def ofValue? : Value → Option Number
  | .integer i => some (.integer i)
  | .double d => some (.double d)
  | _ => none

end Number

/-- An integer of 64 bits, if it is one. -/
def checkedInt (i : Int) : Option Int64 :=
  if -0x8000000000000000 ≤ i ∧ i < 0x8000000000000000 then some (Int64.ofInt i) else none

namespace Outcome

def number (f : Builtin) (o : Outcome) : Except EvalError Number := do
  let v ← o.operand f
  match Number.ofValue? v with
  | some n => return n
  | none => mismatch f .number v

end Outcome

namespace Arithmetic

def integers (op : Arithmetic) (a b : Int64) : Except EvalError Int64 :=
  let f := Builtin.arithmetic op
  let checked := fun (i : Int) =>
    match checkedInt i with
    | some r => Except.ok r
    | none => Except.error (.overflow f)
  let l := a.toInt
  let r := b.toInt
  match op with
  | add => checked (l + r)
  | subtract => checked (l - r)
  | multiply => checked (l * r)
  | divide => if r = 0 then .error (.divisionByZero f) else checked (l.tdiv r)
  | mod => if r = 0 then .error (.divisionByZero f) else checked (l.tmod r)

/-- Division by a zero double is defined, its remainder is not. -/
def doubles (op : Arithmetic) (a b : Double) : Except EvalError Double :=
  match op with
  | add => .ok (a + b)
  | subtract => .ok (a - b)
  | multiply => .ok (a * b)
  | divide => .ok (a / b)
  | mod => if b.isZero then .error (.divisionByZero (.arithmetic mod)) else .ok (a % b)

def numbers (op : Arithmetic) : Number → Number → Except EvalError Number
  | .integer a, .integer b => (op.integers a b).map .integer
  | a, b => (op.doubles a.toDouble b.toDouble).map .double

/-- Reads and combines operands one after another, so the first fault decides. -/
def foldFrom (op : Arithmetic) (total : Number) : List Outcome → Except EvalError Number
  | [] => .ok total
  | o :: rest => do
    let n ← o.number (.arithmetic op)
    foldFrom op (← op.numbers total n) rest

def fold (op : Arithmetic) : List Outcome → Except EvalError Number
  | [] => .error (.arity (.arithmetic op) 0)
  | o :: rest => do foldFrom op (← o.number (.arithmetic op)) rest

/-- The binary operations read both operands before they combine them. -/
def binary (op : Arithmetic) (a b : Outcome) : Except EvalError Number := do
  let l ← a.number (.arithmetic op)
  let r ← b.number (.arithmetic op)
  op.numbers l r

end Arithmetic
end DocQuery
