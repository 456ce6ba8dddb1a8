import DocQuery.Eval.Text

/-! Distances between vectors, with sums rounded from left to right. -/
namespace DocQuery

namespace Double

def dotProduct (as bs : List Double) : Double := sum (as.zipWith mul bs)

/-- None where a vector has no length. -/
def cosineDistance? (as bs : List Double) : Option Double :=
  let left := (dotProduct as as).sqrt
  let right := (dotProduct bs bs).sqrt
  if left.isZero || right.isZero then none else some (one - dotProduct as bs / (left * right))

def euclideanDistance (as bs : List Double) : Double :=
  (sum (as.zipWith (fun a b => (a - b) * (a - b)) bs)).sqrt

def manhattanDistance (as bs : List Double) : Double :=
  sum (as.zipWith (fun a b => (a - b).abs) bs)

end Double

namespace VectorFunction

/-- The measure of two vectors; the length is one of a single vector. -/
def measure? (v : VectorFunction) (as bs : List Double) : Option Double :=
  match v with
  | cosine => Double.cosineDistance? as bs
  | dotProduct => some (Double.dotProduct as bs)
  | euclidean => some (Double.euclideanDistance as bs)
  | manhattan => some (Double.manhattanDistance as bs)
  | length => none

def distance (v : VectorFunction) (left right : Outcome) : Except EvalError Value := do
  let f := Builtin.vector v
  let as ← left.vector f
  let bs ← right.vector f
  if as.length ≠ bs.length then
    throw (.invalidArgument f (.dimensionMismatch as.length bs.length))
  match v.measure? as bs with
  | none => throw (.invalidArgument f .zeroMagnitude)
  | some d => if d.isNaN then throw (.invalidArgument f .resultIsNaN) else return .double d

def count (o : Outcome) : Except EvalError Value := do
  return lengthValue (← o.vector (.vector length)).length

end VectorFunction
end DocQuery
