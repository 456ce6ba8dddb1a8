import DocQuery.Eval.Text

/-! Functions of arrays and maps. A vector is accepted wherever a map is. -/
namespace DocQuery

namespace CollectionFunction

def join (f : Builtin) : List Outcome → Except EvalError (List Value)
  | [] => .ok []
  | o :: rest => do
    let items ← o.array f
    return items ++ (← join f rest)

/-- A negative index counts from the end. -/
def itemAt? (items : List Value) (index : Int) : Option Value :=
  let position := if index < 0 then items.length + index else index
  if 0 ≤ position then items[position.toNat]? else none

def getItem (f : Builtin) (array index : Outcome) : Except EvalError Value := do
  let items ← array.array f
  let i ← index.integer f
  match itemAt? items i.toInt with
  | some v => return v
  | none => throw (.outOfRange f)

/-- Keys and values in turn; a pair whose value is absent is left out. -/
def pairs (f : Builtin) : List Outcome → Except EvalError Fields
  | key :: value :: rest => do
    let k ← key.string f
    match value with
    | .error e => throw e
    | .absent => pairs f rest
    | .value v => return (k, v) :: (← pairs f rest)
  | _ => .ok []

/-- The only function whose own result can be absent. -/
def getEntry (f : Builtin) (map key : Outcome) : Outcome :=
  let found : Except EvalError (Option Value) := do
    let entries ← map.entries f
    let k ← key.string f
    return Entries.find? k entries
  match found with
  | .ok (some v) => .value v
  | .ok none => .absent
  | .error e => .error e

/-- Later maps overwrite the entries of earlier ones. -/
def merge (f : Builtin) (entries : Fields) : List Outcome → Except EvalError Fields
  | [] => .ok entries
  | o :: rest => do merge f (Entries.extend entries (← o.entries f)) rest

def removeEntry (f : Builtin) (map key : Outcome) : Except EvalError Value := do
  let entries ← map.entries f
  let k ← key.string f
  return .map (Entries.erase k entries)

end CollectionFunction
end DocQuery
