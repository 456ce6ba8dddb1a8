import DocQuery.Pipeline.Project
import DocQuery.Pipeline.Tally

/-! Rows in groups by the values of expressions. Groups are told apart by the canonical text of their
keys and come in the order in which they first appear. -/
namespace DocQuery

/-- The keys of a row, absent ones as null; there are none once a key fails. -/
def readGroupKeys (rules : RegexRules) (row : Row) : List Assignment → Observed (Option (List Value))
  | [] => pure (some [])
  | group :: groups => do
    match ← observe rules row group.expr with
    | .error _ => return none
    | o => return (← readGroupKeys rules row groups).map (o.value?.getD .null :: ·)

def groupId (keys : List Value) : String := (Value.array keys).canonical

/-- The fields that hold the keys of a group. -/
def keyFields (groups : List Assignment) (keys : List Value) : Fields :=
  writeFields [] ((groups.map (·.path)).zip keys)

/-- Adds an entry unless its key is there. -/
def addNew (entries : List (String × α)) (key : String) (value : α) : List (String × α) :=
  match Entries.find? key entries with
  | some _ => entries
  | none => entries ++ [(key, value)]

/-- Makes an entry where there is none, then changes it. -/
def updateEntry (key : String) (fresh : α) (change : α → α) :
    List (String × α) → List (String × α)
  | [] => [(key, change fresh)]
  | (k, v) :: rest =>
    if k = key then (k, change v) :: rest else (k, v) :: updateEntry key fresh change rest

def keepDistinct (groups : List Assignment) (seen : List (String × Row)) :
    Row × Option (List Value) → List (String × Row)
  | (_, none) => seen
  | (row, some keys) => addNew seen (groupId keys) (row.withFields (keyFields groups keys))

/-- The first row of each group, with the keys as its only fields. -/
def distinctRows (rules : RegexRules) (groups : List Assignment) (rows : List Row) :
    Observed (List Row) := do
  let keys ← Observed.each (fun row => readGroupKeys rules row groups) rows
  return ((rows.zip keys).foldl (keepDistinct groups) []).map (·.2)

structure Bucket where
  keys : List Value
  tallies : List Tally

def Bucket.empty (accumulators : List Accumulator) (keys : List Value) : Bucket :=
  ⟨keys, accumulators.map fun a => Tally.start a.kind⟩

def Bucket.feed (args : List (Option Outcome)) (bucket : Bucket) : Bucket :=
  { bucket with tallies := bucket.tallies.zipWith Tally.feed args }

/-- What a row contributes to its group. -/
structure Contribution where
  keys : List Value
  args : List (Option Outcome)

def readArgument (rules : RegexRules) (row : Row) (a : Accumulator) : Observed (Option Outcome) :=
  match a.args with
  | [] => pure none
  | arg :: _ => some <$> observe rules row arg

/-- Arguments are evaluated for rows that belong to a group only. -/
def readContribution (rules : RegexRules) (groups : List Assignment) (accumulators : List Accumulator)
    (row : Row) : Observed (Option Contribution) := do
  match ← readGroupKeys rules row groups with
  | none => return none
  | some keys => return some ⟨keys, ← Observed.each (readArgument rules row) accumulators⟩

def collect (accumulators : List Accumulator) (buckets : List (String × Bucket))
    (c : Contribution) : List (String × Bucket) :=
  updateEntry (groupId c.keys) (.empty accumulators c.keys) (.feed c.args) buckets

/-- Without group expressions all rows are one group, which is there even when there are no rows. -/
def initialBuckets (groups : List Assignment) (accumulators : List Accumulator) :
    List (String × Bucket) :=
  if groups.isEmpty then [(groupId [], .empty accumulators [])] else []

def Bucket.toRow (groups : List Assignment) (accumulators : List Accumulator) (b : Bucket) : Row :=
  let totals := (accumulators.map (·.path)).zip (b.tallies.map Tally.result)
  .ofFields (writeFields (keyFields groups b.keys) totals)

/-- One row for each group, with its keys and totals. -/
def aggregateRows (rules : RegexRules) (groups : List Assignment) (accumulators : List Accumulator)
    (rows : List Row) : Observed (List Row) := do
  let contributions ← Observed.each (readContribution rules groups accumulators) rows
  let buckets := (contributions.filterMap id).foldl (collect accumulators)
    (initialBuckets groups accumulators)
  return buckets.map fun (_, bucket) => bucket.toRow groups accumulators

end DocQuery
