import DocQuery.Eval.Observed
import DocQuery.Pipeline.Stage

/-! Keeping rows by a condition, and giving them new fields. -/
namespace DocQuery

/-- Writes fields one after another. -/
def writeFields (fields : Fields) (writes : List (FieldPath × Value)) : Fields :=
  writes.foldl (fun fields (path, value) => setField fields path.segments value) fields

/-- The writes of the assignments that have a value on a row. All are evaluated before any is
written. -/
def readWrites (rules : RegexRules) (assignments : List Assignment) (row : Row) :
    Observed (List (FieldPath × Value)) := do
  let outcomes ← Observed.each (fun a => observe rules row a.expr) assignments
  return (assignments.zip outcomes).filterMap fun (a, o) => o.value?.map fun v => (a.path, v)

def filterRows (rules : RegexRules) (condition : Condition) (rows : List Row) : Observed (List Row) := do
  let outcomes ← Observed.each (fun row => observe rules row condition.toExpr) rows
  return ((rows.zip outcomes).filter fun (_, o) => o.isTrue).map (·.1)

def Row.withFields (row : Row) (fields : Fields) : Row := { row with fields := fields }

def addFields (rules : RegexRules) (assignments : List Assignment) (row : Row) : Observed Row := do
  return row.withFields (writeFields row.fields (← readWrites rules assignments row))

def selectFields (rules : RegexRules) (assignments : List Assignment) (row : Row) : Observed Row := do
  return row.withFields (writeFields [] (← readWrites rules assignments row))

end DocQuery
