import DocQuery.Pipeline.Basic

/-! The canonical texts of stages and pipelines, and sameness of pipelines. A canonical text forgets
the order in which documents and assignments are listed. -/
namespace DocQuery

def sortTexts (texts : List String) : List String := texts.mergeSort fun a b => a ≤ b

def canonicalAssignments (assignments : List (FieldPath × String)) : String :=
  ",".intercalate (sortTexts (assignments.map fun (path, text) => path.text ++ "=" ++ text))

def Assignment.canonicalPair (a : Assignment) : FieldPath × String := (a.path, a.expr.canonical)

def Accumulator.canonicalPair (a : Accumulator) : FieldPath × String :=
  (a.path, callText a.kind.name (canonicalArgs a.args))

def SortKey.canonical (k : SortKey) : String := k.expr.canonical ++ " " ++ k.direction.name

def NearestQuery.canonical (query : NearestQuery) : String :=
  let limit :=
    match query.limit with
    | some n => ",limit=" ++ toString n
    | none => ""
  let distance :=
    match query.distanceField with
    | some path => ",distance=" ++ path.text
    | none => ""
  query.field.canonical ++ "," ++ query.measure.name ++ "," ++
    canonicalArray (query.target.map Double.canonical) ++ limit ++ distance

def canonicalFields (fields : List Assignment) : String :=
  canonicalAssignments (fields.map (·.canonicalPair))

def canonicalGrouping (groups : List Assignment) : String :=
  if groups.isEmpty then "" else ")grouping(" ++ canonicalFields groups

def Source.canonicalArgs : Source → String
  | collection path => path.text
  | collectionGroup id => id
  | database => ""
  | documents keys => ",".intercalate (sortTexts (keys.map (·.text)))

def Step.canonicalArgs : Step → String
  | filter condition => condition.canonical
  | sort keys => ",".intercalate (keys.map (·.canonical))
  | limit n => toString n
  | offset n => toString n
  | addFields fields => canonicalFields fields
  | select fields => canonicalFields fields
  | distinct groups => canonicalFields groups
  | aggregate groups accumulators =>
    canonicalAssignments (accumulators.map (·.canonicalPair)) ++ canonicalGrouping groups
  | findNearest query => query.canonical

namespace Stage

def canonical (stage : Stage) : String :=
  let args :=
    match stage with
    | source s => s.canonicalArgs
    | step s => s.canonicalArgs
  stage.name ++ "(" ++ args ++ ")"

end Stage

def Assignment.same (a b : Assignment) : Bool := a.path == b.path && a.expr.same b.expr

def Accumulator.same (a b : Accumulator) : Bool :=
  a.path == b.path && a.kind == b.kind && argsSame a.args b.args

def SortKey.same (a b : SortKey) : Bool := a.expr.same b.expr && a.direction == b.direction

/-- Targets are compared as numbers, so no query with a NaN in its target is the same as any. -/
def NearestQuery.same (a b : NearestQuery) : Bool :=
  a.field.same b.field && componentsEqual a.target b.target && a.measure == b.measure &&
    a.limit == b.limit && a.distanceField == b.distanceField

def listsSame (same : α → α → Bool) : List α → List α → Bool
  | [], [] => true
  | a :: as, b :: bs => same a b && listsSame same as bs
  | _, _ => false

def Step.same : Step → Step → Bool
  | filter a, filter b => a.same b
  | sort as, sort bs => listsSame SortKey.same as bs
  | limit m, limit n => m == n
  | offset m, offset n => m == n
  | addFields as, addFields bs => listsSame Assignment.same as bs
  | select as, select bs => listsSame Assignment.same as bs
  | distinct as, distinct bs => listsSame Assignment.same as bs
  | aggregate gs as, aggregate hs bs =>
    listsSame Assignment.same gs hs && listsSame Accumulator.same as bs
  | findNearest a, findNearest b => a.same b
  | _, _ => false

namespace Pipeline

def canonical (p : Pipeline) : String := "|".intercalate (p.stages.map (·.canonical))

/-- Whether two pipelines have one canonical text. -/
def sameCanonical (p q : Pipeline) : Bool := p.canonical == q.canonical

/-- Whether two pipelines are the same as written. -/
def same (p q : Pipeline) : Bool := p.source == q.source && listsSame Step.same p.steps q.steps

end Pipeline
end DocQuery
