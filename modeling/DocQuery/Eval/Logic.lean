import DocQuery.Eval.Error
import DocQuery.Value.Order

/-! Connectives over true, false and error, and the functions that select among their operands. -/
namespace DocQuery

namespace Connective

/-- Decided by any operand with the dominant truth value, else by the first error. -/
def dominated (f : Builtin) (dominant : Bool) (fault : Option EvalError) : List Outcome → Outcome
  | [] =>
    match fault with
    | some e => .error e
    | none => .boolean (!dominant)
  | o :: rest =>
    match o.truth f with
    | .ok b => if b = dominant then .boolean dominant else dominated f dominant fault rest
    | .error e => dominated f dominant (fault.or (some e)) rest

def parity (f : Builtin) (odd : Bool) : List Outcome → Outcome
  | [] => .boolean odd
  | o :: rest =>
    match o.truth f with
    | .ok b => parity f (odd != b) rest
    | .error e => .error e

def negate (f : Builtin) (o : Outcome) : Outcome :=
  match o.truth f with
  | .ok b => .boolean (!b)
  | .error e => .error e

end Connective

/-- Where each of two values comes in the total order, a value replaces the best one so far when it
lies on the wanted side of it. Null values never count. -/
def betterOf (wanted : Ordering) (best : Option Value) (v : Value) : Option Value :=
  if v.isNull then best
  else
    match best with
    | none => some v
    | some current => if v.order current = wanted then some v else best

/-- The first extreme value; operands without a value do not count. -/
def firstExtreme (wanted : Ordering) (args : List Outcome) : Value :=
  ((args.filterMap Outcome.value?).foldl (betterOf wanted) none).getD .null

def ifError (tried fallback : Outcome) : Outcome :=
  match tried with
  | .error _ => fallback
  | o => o

/-- Whatever is not true selects the second alternative, errors apart. -/
def conditional (test yes no : Outcome) : Outcome :=
  match test with
  | .error e => .error e
  | o => if o.isTrue then yes else no

end DocQuery
