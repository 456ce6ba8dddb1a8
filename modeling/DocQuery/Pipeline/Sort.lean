import DocQuery.Eval.Observed
import DocQuery.Pipeline.Stage
import DocQuery.Sorting
import DocQuery.Value.Order

/-! Sorting rows by the values of expressions. Pairs of values without an order are passed over, rows
without a value come last in both directions, and what is left of ties is broken by document key. -/
namespace DocQuery

def Direction.compare? (d : Direction) (a b : Value) : Option Ordering :=
  match d with
  | .ascending => a.compare? b
  | .descending => b.compare? a

/-- Compares what two rows have for one key. -/
def compareKey? (d : Direction) : Option Value → Option Value → Option Ordering
  | none, none => some .eq
  | none, some _ => some .gt
  | some _, none => some .lt
  | some a, some b => d.compare? a b

/-- Compares by the first key that tells the rows apart. -/
def compareKeys : List Direction → List (Option Value) → List (Option Value) → Ordering
  | d :: ds, a :: as, b :: bs =>
    match compareKey? d a b with
    | some .lt => .lt
    | some .gt => .gt
    | _ => compareKeys ds as bs
  | _, _, _ => .eq

/-- Rows without a key come after all others. -/
def compareIdentity : Option DocumentKey → Option DocumentKey → Ordering
  | some a, some b => a.order b
  | some _, none => .lt
  | none, some _ => .gt
  | none, none => .eq

structure KeyedRow where
  keys : List (Option Value)
  row : Row

def KeyedRow.compare (ds : List Direction) (a b : KeyedRow) : Ordering :=
  (compareKeys ds a.keys b.keys).then (compareIdentity a.row.key b.row.key)

def readSortKeys (rules : RegexRules) (keys : List SortKey) (row : Row) : Observed KeyedRow := do
  let outcomes ← Observed.each (fun key => observe rules row key.expr) keys
  return ⟨outcomes.map Outcome.value?, row⟩

def sortKeyed (ds : List Direction) (rows : List KeyedRow) : List KeyedRow :=
  mergeHalves (fun a b => KeyedRow.compare ds a b == .lt) rows

/-- Every key is evaluated once per row, before any comparison. -/
def sortRows (rules : RegexRules) (keys : List SortKey) (rows : List Row) : Observed (List Row) := do
  let keyed ← Observed.each (readSortKeys rules keys) rows
  return (sortKeyed (keys.map (·.direction)) keyed).map (·.row)

end DocQuery
