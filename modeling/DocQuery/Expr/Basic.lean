import DocQuery.Expr.Builtin
import DocQuery.Path.Field
import DocQuery.Value.Canonical
import DocQuery.Value.Equality
import DocQuery.Value.Text

/-! Expressions over the fields of a row, and their canonical texts. -/
namespace DocQuery

/-- A `condition` is a call that is known to be boolean. -/
inductive Expr where
  | field (path : FieldPath)
  | constant (value : Value)
  | call (function : Builtin) (args : List Expr)
  | condition (function : Builtin) (args : List Expr) (boolean : function.isPredicate = true)
  | list (items : List Expr)

/-- A call of a function that yields booleans. -/
structure Condition where
  function : Builtin
  args : List Expr
  boolean : function.isPredicate = true

def callText (name : String) (args : List String) : String :=
  "fn(" ++ name ++ ",[" ++ ",".intercalate args ++ "])"

namespace Expr

/-- A call, as a condition where the function is known to be boolean. -/
def apply (function : Builtin) (args : List Expr) : Expr :=
  if h : function.isPredicate = true then condition function args h else call function args

/-- Calls of boolean functions are conditions, whichever way they were made. -/
def toCondition? : Expr → Option Condition
  | condition function args h => some ⟨function, args, h⟩
  | call function args =>
    if h : function.isPredicate = true then some ⟨function, args, h⟩ else none
  | _ => none

def describe : Expr → String
  | field path => path.text
  | constant value => value.text
  | call function _ => function.name ++ "(..)"
  | condition function _ _ => function.name ++ "(..)"
  | list items => "list[" ++ toString items.length ++ "]"

end Expr

mutual

def Expr.canonical : Expr → String
  | .field path => "fld(" ++ path.text ++ ")"
  | .constant value => "cst(" ++ value.canonical ++ ")"
  | .call function args => callText function.name (canonicalArgs args)
  | .condition function args _ => callText function.name (canonicalArgs args)
  | .list items => "list([" ++ ",".intercalate (canonicalArgs items) ++ "])"

def canonicalArgs : List Expr → List String
  | [] => []
  | e :: es => e.canonical :: canonicalArgs es

end

mutual

/-- Sameness as written, up to the order of entries in constants. -/
def Expr.same : Expr → Expr → Bool
  | .field a, .field b => a == b
  | .constant a, .constant b => a.same b
  | .call f as, .call g bs => f == g && argsSame as bs
  | .condition f as _, .condition g bs _ => f == g && argsSame as bs
  | .list as, .list bs => argsSame as bs
  | _, _ => false

def argsSame : List Expr → List Expr → Bool
  | [], [] => true
  | a :: as, b :: bs => a.same b && argsSame as bs
  | _, _ => false

end

namespace Condition

def toExpr (c : Condition) : Expr := .condition c.function c.args c.boolean

def canonical (c : Condition) : String := c.toExpr.canonical

def same (a b : Condition) : Bool := a.toExpr.same b.toExpr

end Condition
end DocQuery
