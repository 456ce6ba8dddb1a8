import DocQuery.Pipeline.Execute

/-! Stages do nothing but evaluate expressions and arrange rows by the outcomes. Here they run in any monad that can
evaluate expressions. -/
namespace DocQuery

namespace Interpreted

section Stages

variable {m : Type → Type} [Monad m] (eval : Row → Expr → m Outcome)

def filterRows (condition : Condition) (rows : List Row) : m (List Row) := do
  let outcomes ← rows.mapM fun row => eval row condition.toExpr
  return ((rows.zip outcomes).filter fun (_, o) => o.isTrue).map (·.1)

def readSortKeys (keys : List SortKey) (row : Row) : m KeyedRow := do
  let outcomes ← keys.mapM fun key => eval row key.expr
  return ⟨outcomes.map Outcome.value?, row⟩

def sortRows (keys : List SortKey) (rows : List Row) : m (List Row) := do
  let keyed ← rows.mapM (readSortKeys eval keys)
  return (sortKeyed (keys.map (·.direction)) keyed).map (·.row)

def readWrites (assignments : List Assignment) (row : Row) : m (List (FieldPath × Value)) := do
  let outcomes ← assignments.mapM fun a => eval row a.expr
  return (assignments.zip outcomes).filterMap fun (a, o) => o.value?.map fun v => (a.path, v)

/-- Writes what the assignments have on a row into the fields that it starts with. -/
def assign (assignments : List Assignment) (start : Fields) (row : Row) : m Row := do
  return row.withFields (writeFields start (← readWrites eval assignments row))

def readGroupKeys (row : Row) : List Assignment → m (Option (List Value))
  | [] => return some []
  | group :: groups => do
    match ← eval row group.expr with
    | .error _ => return none
    | o => return (← readGroupKeys row groups).map (o.value?.getD .null :: ·)

def distinctRows (groups : List Assignment) (rows : List Row) : m (List Row) := do
  let keys ← rows.mapM fun row => readGroupKeys eval row groups
  return ((rows.zip keys).foldl (keepDistinct groups) []).map (·.2)

def readArgument (row : Row) (a : Accumulator) : m (Option Outcome) :=
  match a.args with
  | [] => return none
  | arg :: _ => do return some (← eval row arg)

def readContribution (groups : List Assignment) (accumulators : List Accumulator) (row : Row) :
    m (Option Contribution) := do
  match ← readGroupKeys eval row groups with
  | none => return none
  | some keys => return some ⟨keys, ← accumulators.mapM (readArgument eval row)⟩

def aggregateRows (groups : List Assignment) (accumulators : List Accumulator) (rows : List Row) : m (List Row) := do
  let contributions ← rows.mapM (readContribution eval groups accumulators)
  let buckets := (contributions.filterMap id).foldl (collect accumulators) (initialBuckets groups accumulators)
  return buckets.map fun (_, bucket) => bucket.toRow groups accumulators

def nearestRows (query : NearestQuery) (rows : List Row) : m (List Row) := do
  let outcomes ← rows.mapM fun row => eval row query.field
  let ranked := (rows.zip outcomes).filterMap fun (row, o) => (query.distance? o).map fun d => RankedRow.mk d row
  return (query.cut (rankRows query.measure ranked)).map query.mark

def runStep (rows : List Row) : Step → m (List Row)
  | .filter condition => filterRows eval condition rows
  | .sort keys => sortRows eval keys rows
  | .limit n => return rows.take n
  | .offset n => return rows.drop n
  | .addFields fields => rows.mapM fun row => assign eval fields row.fields row
  | .select fields => rows.mapM fun row => assign eval fields [] row
  | .distinct groups => distinctRows eval groups rows
  | .aggregate groups accumulators => aggregateRows eval groups accumulators rows
  | .findNearest query => nearestRows eval query rows

/-- Runs numbered stages one after another, and tells whether one of them has cut its rows short. -/
def runStages (run : Nat → List Row → Step → m (List Row)) (index : Nat) (rows : List Row) :
    List Step → m (List Row × Bool)
  | [] => return (rows, false)
  | step :: steps => do
    let done ← run index rows step
    let (last, limited) ← runStages run (index + 1) done steps
    return (last, step.isLimiting && decide (done.length < rows.length) || limited)

def runSteps (rows : List Row) (steps : List Step) : m (List Row × Bool) :=
  runStages (fun _ => runStep eval) 1 rows steps

end Stages
end Interpreted

end DocQuery
