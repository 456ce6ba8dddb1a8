import DocQuery.Eval.Evaluate
import DocQuery.Pattern.Cache

/-! Which operands an evaluation looks at before its outcome is decided, and so which patterns it asks
for. Operands are looked at from the left; the rest of them make no difference to the outcome. -/
namespace DocQuery

/-- The number of operands up to the first that settles a question, itself included. -/
def countUpTo (settles : Outcome → Bool) : List Outcome → Nat
  | [] => 0
  | o :: rest => if settles o then 1 else 1 + countUpTo settles rest

def fails (result : Except EvalError α) : Bool :=
  match result with
  | .ok _ => false
  | .error _ => true

def truthIs (b : Bool) : Outcome → Bool
  | .value (.boolean c) => b == c
  | _ => false

def isBoolean : Outcome → Bool
  | .value (.boolean _) => true
  | _ => false

def hasValue (o : Outcome) : Bool := o.value?.isSome

/-- The number of operands of a sum or product that are read. -/
def countFolded (op : Arithmetic) : List Outcome → Nat
  | [] => 0
  | first :: rest =>
    1 + (List.range rest.length).findIdx fun n =>
      fails (Arithmetic.fold op (first :: rest.take n))

/-- Keys are read first, so a bad key hides its value. -/
def countPairs (f : Builtin) : List Outcome → Nat
  | key :: value :: rest =>
    if fails (key.string f) then 1
    else if value.isError then 2
    else 2 + countPairs f rest
  | rest => rest.length

/-- Reads operands by what is expected of each. -/
def countRead : List (Outcome → Bool) → List Outcome → Nat
  | reads :: more, o :: rest => if reads o then 1 + countRead more rest else 1
  | _, _ => 0

namespace Builtin

def readsString (f : Builtin) (o : Outcome) : Bool := !fails (o.string f)
def readsInteger (f : Builtin) (o : Outcome) : Bool := !fails (o.integer f)

/-- How many operands, from the left, an application looks at. -/
def demand (f : Builtin) (args : List Outcome) : Nat :=
  match f with
  | relation _ | inspection _ | containment .element => args.length
  | membership _ | containment _ =>
    match args with
    | [] => 0
    | _ :: rest => 1 + countUpTo Outcome.isError rest
  | connective .and => countUpTo (truthIs false) args
  | connective .or => countUpTo (truthIs true) args
  | connective .xor => countUpTo (!isBoolean ·) args
  | connective .not | selection _ => args.length
  | arithmetic .add => countFolded .add args
  | arithmetic .multiply => countFolded .multiply args
  | arithmetic op => countUpTo (fun o => fails (o.number (arithmetic op))) args
  | text .substr => countRead [f.readsString, f.readsInteger, f.readsInteger] args
  | text _ | pattern _ => countUpTo (!f.readsString ·) args
  | collection .map => countPairs f args
  | collection .arrayGet => countUpTo (fun o => fails (o.array f)) args
  | collection .mapGet | collection .mapRemove | collection .mapMerge =>
    countUpTo (fun o => fails (o.entries f)) args
  | collection _ => countUpTo (fun o => fails (o.array f)) args
  | vector _ => countUpTo (fun o => fails (o.vector f)) args
  | time .add | time .sub =>
    countRead [fun o => !fails (o.timestamp f), f.readsString, f.readsInteger] args
  | time _ | documentId => args.length

/-- The operands that an application looks at, by position. -/
def consulted (f : Builtin) (args : List Outcome) : List Nat :=
  if !f.arity.admits args.length then []
  else
    match f, args with
    | selection .ifError, tried :: _ => if tried.isError then [0, 1] else [0]
    | selection .cond, test :: _ =>
      if test.isError then [0] else if test.isTrue then [0, 1] else [0, 2]
    | f, args => List.range (f.demand args)

/-- The pattern that an application asks for itself, once it has both of its texts. -/
def ownRequest (f : Builtin) (args : List Outcome) : List PatternRequest :=
  match f, args with
  | pattern p, [.value (.string _), .value (.string t)] => [⟨p.kind, t⟩]
  | _, _ => []

end Builtin

def pick (parts : List (List α)) (positions : List Nat) : List α :=
  positions.flatMap fun i => parts.getD i []

mutual

/-- The patterns that the evaluation of an expression asks for, in order. -/
def requests (rules : RegexRules) (row : Row) : Expr → List PatternRequest
  | .field _ => []
  | .constant _ => []
  | .call f args =>
    let outcomes := evaluateAll rules row args
    pick (requestsOfAll rules row args) (f.consulted outcomes) ++ f.ownRequest outcomes
  | .condition f args _ =>
    let outcomes := evaluateAll rules row args
    pick (requestsOfAll rules row args) (f.consulted outcomes) ++ f.ownRequest outcomes
  | .list items =>
    let count := countUpTo (!hasValue ·) (evaluateAll rules row items)
    pick (requestsOfAll rules row items) (List.range count)

def requestsOfAll (rules : RegexRules) (row : Row) : List Expr → List (List PatternRequest)
  | [] => []
  | e :: es => requests rules row e :: requestsOfAll rules row es

end
end DocQuery
