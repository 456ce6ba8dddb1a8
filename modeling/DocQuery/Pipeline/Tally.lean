import DocQuery.Eval.Logic
import DocQuery.Eval.Text
import DocQuery.Value.Canonical

/-! Running totals of the values of a group. -/
namespace DocQuery

inductive Tally where
  | count (n : Nat)
  | countIf (n : Nat)
  | countDistinct (ids : List String)
  | sum (total : Option Number)
  | average (total : Double) (n : Nat)
  | extreme (wanted : Ordering) (best : Option Value)

/-- A sum stays an integer until it leaves 64 bits or meets a double. -/
def Number.addRounded : Number → Number → Number
  | .integer a, .integer b =>
    match checkedInt (a.toInt + b.toInt) with
    | some i => .integer i
    | none => .double (Double.ofInt a.toInt + Double.ofInt b.toInt)
  | a, b => .double (a.toDouble + b.toDouble)

def addToSum (total : Option Number) (n : Number) : Option Number :=
  match total with
  | none => some n
  | some t => some (t.addRounded n)

namespace Tally

def start : Aggregation → Tally
  | .count => count 0
  | .countIf => countIf 0
  | .countDistinct => countDistinct []
  | .sum => sum none
  | .average => average .zero 0
  | .minimum => extreme .lt none
  | .maximum => extreme .gt none

/-- Counts of nothing in particular count rows; other totals need an argument. -/
def addRow : Tally → Tally
  | count n => count (n + 1)
  | countIf n => countIf (n + 1)
  | t => t

def add (t : Tally) (v : Value) : Tally :=
  match t with
  | count n => count (if v.isNull then n else n + 1)
  | countIf n => countIf (if v.isTrue then n + 1 else n)
  | countDistinct ids => countDistinct (if v.isNull then ids else ids.insert v.canonical)
  | sum total =>
    match Number.ofValue? v with
    | some n => sum (addToSum total n)
    | none => sum total
  | average total n =>
    match Number.ofValue? v with
    | some x => average (total + x.toDouble) (n + 1)
    | none => average total n
  | extreme wanted best => extreme wanted (betterOf wanted best v)

/-- Takes in an argument; there is no outcome where no argument is given. Absent arguments and
errors are left out. -/
def feed (t : Tally) : Option Outcome → Tally
  | none => t.addRow
  | some (.value v) => t.add v
  | some _ => t

/-- An average, and a sum of no numbers, is null over no numbers. -/
def result : Tally → Value
  | count n => lengthValue n
  | countIf n => lengthValue n
  | countDistinct ids => lengthValue ids.length
  | sum total => (total.map Number.toValue).getD .null
  | average total n => if n = 0 then .null else .double (total / Double.ofInt n)
  | extreme _ best => best.getD .null

end Tally
end DocQuery
