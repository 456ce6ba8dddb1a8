import DocQuery.Eval.Vector
import DocQuery.Pipeline.Project
import DocQuery.Pipeline.Sort

/-! The rows whose vectors are nearest to a target. -/
namespace DocQuery

def DistanceMeasure.measure? (m : DistanceMeasure) (as bs : List Double) : Option Double :=
  match m with
  | cosine => Double.cosineDistance? as bs
  | euclidean => some (Double.euclideanDistance as bs)
  | dotProduct => some (Double.dotProduct as bs)

structure RankedRow where
  distance : Double
  row : Row

/-- The distance of a vector of the right length, where it is a number. -/
def NearestQuery.distance? (query : NearestQuery) : Outcome → Option Double
  | .value (.vector components) =>
    if components.length = query.target.length then
      match query.measure.measure? components query.target with
      | some d => if d.isNaN then none else some d
      | none => none
    else none
  | _ => none

/-- Rows by distance, nearest first, then by document key. -/
def RankedRow.compare (m : DistanceMeasure) (a b : RankedRow) : Ordering :=
  let byDistance :=
    if m.descending then b.distance.signedOrder a.distance
    else a.distance.signedOrder b.distance
  byDistance.then (compareIdentity a.row.key b.row.key)

def rankRows (m : DistanceMeasure) (rows : List RankedRow) : List RankedRow :=
  rows.mergeSort fun a b => RankedRow.compare m a b != .gt

def NearestQuery.cut (query : NearestQuery) (rows : List RankedRow) : List RankedRow :=
  match query.limit with
  | some n => rows.take n
  | none => rows

def NearestQuery.mark (query : NearestQuery) (r : RankedRow) : Row :=
  match query.distanceField with
  | some path => r.row.withFields (setField r.row.fields path.segments (.double r.distance))
  | none => r.row

/-- Rows without a distance are left out. -/
def nearestRows (rules : RegexRules) (query : NearestQuery) (rows : List Row) : Observed (List Row) := do
  let outcomes ← Observed.each (fun row => observe rules row query.field) rows
  let ranked := (rows.zip outcomes).filterMap fun (row, o) =>
    (query.distance? o).map fun d => RankedRow.mk d row
  return (query.cut (rankRows query.measure ranked)).map query.mark

end DocQuery
