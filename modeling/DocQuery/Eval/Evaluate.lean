import DocQuery.Document
import DocQuery.Eval.Apply
import DocQuery.Expr.Basic

/-! Evaluating expressions on a row. Evaluation has no effects: an expression has one outcome on a row,
whatever was evaluated before. -/
namespace DocQuery

def Row.field (row : Row) (path : FieldPath) : Outcome :=
  match row.lookup path with
  | some v => .value v
  | none => .absent

/-- The items of a list, all of which must have a value. -/
def collectItems : List Outcome → Except EvalError (List Value)
  | [] => .ok []
  | .value v :: rest => do return v :: (← collectItems rest)
  | .absent :: _ => .error .absentItem
  | .error e :: _ => .error e

mutual

/-- The outcome of an expression, its patterns being built by certain rules. -/
def evaluate (rules : RegexRules) (row : Row) : Expr → Outcome
  | .field path => row.field path
  | .constant v => .value v
  | .call f args => f.apply rules (evaluateAll rules row args)
  | .condition f args _ => f.apply rules (evaluateAll rules row args)
  | .list items => .ofExcept ((collectItems (evaluateAll rules row items)).map .array)

def evaluateAll (rules : RegexRules) (row : Row) : List Expr → List Outcome
  | [] => []
  | e :: es => evaluate rules row e :: evaluateAll rules row es

end

def Condition.evaluate (rules : RegexRules) (row : Row) (c : Condition) : Outcome :=
  DocQuery.evaluate rules row c.toExpr

end DocQuery
