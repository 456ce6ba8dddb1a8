import DocQuery.Expr.Builtin
import DocQuery.Value.Basic

/-! What an evaluation yields: a value, nothing, or an error with its cause. -/
namespace DocQuery

/-- What a function expects of an operand. -/
inductive Expected where
  | number
  | integer
  | string
  | array
  | map
  | vector
  | timestamp
  | reference
  deriving DecidableEq

def Expected.name : Expected → String
  | number => "number"
  | integer => "integer"
  | string => "string"
  | array => "array"
  | map => "map"
  | vector => "vector"
  | timestamp => "timestamp"
  | reference => "reference"

/-- Operands of the right types that a function does not accept. -/
inductive ArgumentFault where
  | negativeLength
  | dimensionMismatch (left right : Nat)
  | zeroMagnitude
  | resultIsNaN
  | unknownTimeUnit (unit : String)
  deriving DecidableEq

def ArgumentFault.message : ArgumentFault → String
  | negativeLength => "length must not be negative"
  | dimensionMismatch left right =>
    "dimension mismatch: " ++ toString left ++ " vs " ++ toString right
  | zeroMagnitude => "zero-magnitude vector"
  | resultIsNaN => "result is NaN"
  | unknownTimeUnit unit => "unknown time unit '" ++ unit ++ "'"

inductive EvalError where
  | typeMismatch (function : Builtin) (expected : Expected) (actual : String)
  | arity (function : Builtin) (actual : Nat)
  | absentOperand (function : Builtin)
  | absentItem
  | notBoolean (function : Builtin)
  | overflow (function : Builtin)
  | divisionByZero (function : Builtin)
  | outOfRange (function : Builtin)
  | invalidArgument (function : Builtin) (fault : ArgumentFault)
  | invalidPattern (pattern reason : String)
  deriving DecidableEq

namespace EvalError

def patternText (pattern : String) : String := "invalid pattern '" ++ pattern ++ "'"

def message : EvalError → String
  | typeMismatch f expected actual =>
    f.name ++ ": expected " ++ expected.name ++ ", got " ++ actual
  | arity f actual =>
    f.name ++ ": expected " ++ f.arity.text ++ " argument(s), got " ++ toString actual
  | absentOperand f => f.name ++ ": operand is absent"
  | absentItem => "list: operand is absent"
  | notBoolean f => f.name ++ ": operand is not a boolean"
  | overflow f => f.name ++ ": integer overflow"
  | divisionByZero f => f.name ++ ": division by zero"
  | outOfRange f => f.name ++ ": result out of range"
  | invalidArgument f fault => f.name ++ ": " ++ fault.message
  | invalidPattern pattern reason => patternText pattern ++ ": " ++ reason

end EvalError

inductive Outcome where
  | value (v : Value)
  | absent
  | error (e : EvalError)
  deriving Inhabited

namespace Outcome

def boolean (b : Bool) : Outcome := value (.boolean b)

def ofExcept : Except EvalError Value → Outcome
  | .ok v => value v
  | .error e => error e

def value? : Outcome → Option Value
  | value v => some v
  | _ => none

def error? : Outcome → Option EvalError
  | error e => some e
  | _ => none

def isError : Outcome → Bool
  | error _ => true
  | _ => false

def isTrue : Outcome → Bool
  | value v => v.isTrue
  | _ => false

/-- The truth value of an operand of a connective. -/
def truth (f : Builtin) : Outcome → Except EvalError Bool
  | value (.boolean b) => .ok b
  | error e => .error e
  | _ => .error (.notBoolean f)

/-- A value, for functions that take nothing else. -/
def operand (f : Builtin) : Outcome → Except EvalError Value
  | value v => .ok v
  | absent => .error (.absentOperand f)
  | error e => .error e

def mismatch (f : Builtin) (expected : Expected) (v : Value) : Except EvalError α :=
  .error (.typeMismatch f expected v.typeName)

def string (f : Builtin) (o : Outcome) : Except EvalError String := do
  match ← o.operand f with
  | .string s => return s
  | v => mismatch f .string v

def integer (f : Builtin) (o : Outcome) : Except EvalError Int64 := do
  match ← o.operand f with
  | .integer i => return i
  | v => mismatch f .integer v

def array (f : Builtin) (o : Outcome) : Except EvalError (List Value) := do
  match ← o.operand f with
  | .array items => return items
  | v => mismatch f .array v

/-- The entries of a map, or of the map that stands for a vector. -/
def entries (f : Builtin) (o : Outcome) : Except EvalError Fields := do
  let v ← o.operand f
  match v.entries? with
  | some entries => return entries
  | none => mismatch f .map v

def vector (f : Builtin) (o : Outcome) : Except EvalError (List Double) := do
  match ← o.operand f with
  | .vector components => return components
  | v => mismatch f .vector v

def timestamp (f : Builtin) (o : Outcome) : Except EvalError Timestamp := do
  match ← o.operand f with
  | .timestamp t => return t
  | v => mismatch f .timestamp v

def reference (f : Builtin) (o : Outcome) : Except EvalError DocumentKey := do
  match ← o.operand f with
  | .reference key => return key
  | v => mismatch f .reference v

end Outcome
end DocQuery
