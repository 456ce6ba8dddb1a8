import DocQuery.Pipeline.Basic
import DocQuery.Pipeline.Group
import DocQuery.Pipeline.Nearest

/-! Executing a pipeline: each step turns the rows of the one before it into its own. -/
namespace DocQuery

namespace Step

def run (rules : RegexRules) (rows : List Row) : Step → Observed (List Row)
  | filter condition => filterRows rules condition rows
  | sort keys => sortRows rules keys rows
  | .limit n => pure (rows.take n)
  | offset n => pure (rows.drop n)
  | addFields fields => Observed.each (DocQuery.addFields rules fields) rows
  | select fields => Observed.each (selectFields rules fields) rows
  | distinct groups => distinctRows rules groups rows
  | aggregate groups accumulators => aggregateRows rules groups accumulators rows
  | findNearest query => nearestRows rules query rows

/-- Whether the step is one of those that cut a list short. -/
def isLimiting : Step → Bool
  | .limit _ => true
  | findNearest _ => true
  | _ => false

end Step

/-- What is known of a stage once it has run. -/
structure StageReport where
  name : String
  output : Nat
  evaluations : List Evaluation

/-- What a list of steps makes of rows. -/
structure Passage where
  rows : List Row
  limited : Bool
  reports : List StageReport

def runSteps (rules : RegexRules) (rows : List Row) : List Step → Passage
  | [] => ⟨rows, false, []⟩
  | step :: steps =>
    let done := step.run rules rows
    let rest := runSteps rules done.value steps
    let limited := step.isLimiting && decide (done.value.length < rows.length)
    ⟨rest.rows, limited || rest.limited,
      ⟨step.name, done.value.length, done.evaluations⟩ :: rest.reports⟩

structure Execution where
  rows : List Row
  scanned : Nat
  limitApplied : Bool
  reports : List StageReport

/-- What is handed back of a run. -/
structure Completion where
  rows : List Row
  scanned : Nat
  limitApplied : Bool
  errors : Nat

namespace Completion

def returned (result : Completion) : Nat := result.rows.length

def isEmpty (result : Completion) : Bool := result.rows.isEmpty

def paths (result : Completion) : List String := result.rows.filterMap fun row => row.key.map (·.text)

end Completion

namespace Execution

/-- The number of evaluations that ended in an error. -/
def errors (e : Execution) : Nat := errorCount (e.reports.flatMap (·.evaluations))

def completion (e : Execution) : Completion := ⟨e.rows, e.scanned, e.limitApplied, e.errors⟩

def returned (e : Execution) : Nat := e.completion.returned

def paths (e : Execution) : List String := e.completion.paths

end Execution

namespace Source

/-- The rows of the documents that the source chooses. -/
def rows (s : Source) (docs : List Document) : List Row :=
  (docs.filter fun doc => s.chooses doc.key).map (·.toRow)

end Source

def Pipeline.execute (rules : RegexRules) (p : Pipeline) (docs : List Document) : Execution :=
  let chosen := p.source.rows docs
  let passage := runSteps rules chosen p.steps
  ⟨passage.rows, docs.length, passage.limited,
    ⟨p.source.name, chosen.length, []⟩ :: passage.reports⟩

end DocQuery
