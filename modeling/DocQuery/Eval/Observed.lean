import DocQuery.Eval.Demand

/-! Results together with the evaluations that led to them, in order. -/
namespace DocQuery

/-- What one evaluation leaves besides its outcome. -/
structure Evaluation where
  requests : List PatternRequest
  error : Option EvalError

structure Observed (α : Type) where
  value : α
  evaluations : List Evaluation

namespace Observed

instance : Monad Observed where
  pure a := ⟨a, []⟩
  bind o f :=
    let next := f o.value
    ⟨next.value, o.evaluations ++ next.evaluations⟩

/-- One observed computation after the other, over a list. -/
def each (f : α → Observed β) (items : List α) : Observed (List β) :=
  let seen := items.map f
  ⟨seen.map (·.value), seen.flatMap (·.evaluations)⟩

end Observed

def observe (rules : RegexRules) (row : Row) (e : Expr) : Observed Outcome :=
  let outcome := evaluate rules row e
  ⟨outcome, [⟨requests rules row e, outcome.error?⟩]⟩

/-- How many evaluations ended in an error. -/
def errorCount (evaluations : List Evaluation) : Nat :=
  evaluations.countP (·.error.isSome)

end DocQuery
