import DocQuery.Eval.Error
import DocQuery.Value.Equality
import DocQuery.Value.Order

/-! Comparing values, looking them up in lists, and inspecting one value. These functions pass on the
errors of their operands and have none of their own. -/
namespace DocQuery

namespace Relation

def holds (r : Relation) (a b : Value) : Bool :=
  match r with
  | eq => a.equals b
  | neq => !a.equals b
  | lt => a.compare? b == some .lt
  | lte => a.compare? b == some .lt || a.compare? b == some .eq
  | gt => a.compare? b == some .gt
  | gte => a.compare? b == some .gt || a.compare? b == some .eq

/-- An absent operand differs from everything and compares with nothing. -/
def apply (r : Relation) : Outcome → Outcome → Outcome
  | .error e, _ => .error e
  | _, .error e => .error e
  | .value a, .value b => .boolean (r.holds a b)
  | _, _ => .boolean (r = neq)

end Relation

namespace Inspection

def holds (i : Inspection) (v : Value) : Bool :=
  match i with
  | «exists» => true
  | isAbsent => false
  | isNull => v.isNull
  | isNotNull => !v.isNull
  | isNaN => v.isNaN
  | isNotNaN => v.isNumber && !v.isNaN

def apply (i : Inspection) : Outcome → Outcome
  | .error e => .error e
  | .absent => .boolean (i = isAbsent)
  | .value v => .boolean (i.holds v)

end Inspection

/-- Several candidates: the first error, or all that are present. -/
def presentValues : List Outcome → Except EvalError (List Value)
  | [] => .ok []
  | .error e :: _ => .error e
  | .absent :: rest => presentValues rest
  | .value v :: rest => do return v :: (← presentValues rest)

/-- A single candidate must be an array, whose items are then the candidates; anything else gives
none at all. -/
def candidates : List Outcome → Except EvalError (Option (List Value))
  | [.error e] => .error e
  | [.value (.array items)] => .ok (some items)
  | [_] => .ok none
  | args => do return some (← presentValues args)

namespace Membership

/-- An error among the candidates comes before one of the operand that is looked up. -/
def apply (m : Membership) (search : Outcome) (args : List Outcome) : Outcome :=
  let negated := m == notEqAny
  match candidates args, search with
  | .error e, _ => .error e
  | .ok _, .error e => .error e
  | .ok _, .absent => .boolean negated
  | .ok none, .value _ => .boolean negated
  | .ok (some items), .value v => .boolean (items.any (fun c => v.equals c) != negated)

end Membership

namespace Containment

def holdsIn (items : List Value) (wanted : Value) : Bool := items.any fun v => v.equals wanted

def inArray : Outcome → Outcome → Outcome
  | .error e, _ => .error e
  | _, .error e => .error e
  | .value (.array items), .value wanted => .boolean (holdsIn items wanted)
  | _, _ => .boolean false

/-- All of the wanted values, or any of them, in an array. -/
def severalInArray (c : Containment) (array : Outcome) (args : List Outcome) : Outcome :=
  match candidates args, array with
  | .error e, _ => .error e
  | .ok _, .error e => .error e
  | .ok (some wanted), .value (.array items) =>
    .boolean (if c = all then wanted.all (holdsIn items) else wanted.any (holdsIn items))
  | _, _ => .boolean false

end Containment
end DocQuery
