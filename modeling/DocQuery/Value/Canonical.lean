import DocQuery.Number.DoubleText
import DocQuery.Text.Base64
import DocQuery.Text.Quoted
import DocQuery.Value.Basic

/-! The canonical text of a value. It forgets the kind of a whole number, the order of entries and
the difference between a vector and the map that stands for it. -/
namespace DocQuery

/-- A whole number in the range of integers is written as an integer. -/
def Double.canonical (d : Double) : String :=
  if d.isNaN then "NaN"
  else if d.isWhole ∧ -0x8000000000000000 ≤ d.whole ∧ d.whole < 0x8000000000000000 then toString d.whole
  else d.text

def canonicalEntry (entry : String × String) : String := Quoted.encode entry.1 ++ ":" ++ entry.2

/-- Entries by key between braces, given the texts of their values. -/
def canonicalMap (entries : List (String × String)) : String :=
  "\x7b" ++ ",".intercalate ((Entries.sortByKey entries).map canonicalEntry) ++ "\x7d"

def canonicalArray (items : List String) : String := "[" ++ ",".intercalate items ++ "]"

def canonicalVector (components : List Double) : String :=
  canonicalMap [(Value.vectorTypeKey, Quoted.encode Value.vectorTypeName),
    (Value.vectorItemsKey, canonicalArray (components.map Double.canonical))]

mutual

def Value.canonical : Value → String
  | .null => "null"
  | .boolean b => if b then "true" else "false"
  | .integer i => toString i.toInt
  | .double d => d.canonical
  | .timestamp t => "time(" ++ toString t.seconds ++ "," ++ toString t.nanos ++ ")"
  | .string s => Quoted.encode s
  | .bytes bs => "bytes(" ++ Base64.encode bs ++ ")"
  | .reference key => "ref(" ++ key.text ++ ")"
  | .geo point =>
    "geo(" ++ point.latitude.canonical ++ "," ++ point.longitude.canonical ++ ")"
  | .array items => canonicalArray (canonicalItems items)
  | .map entries => canonicalMap (canonicalValues entries)
  | .vector components => canonicalVector components

def canonicalItems : List Value → List String
  | [] => []
  | v :: vs => v.canonical :: canonicalItems vs

def canonicalValues : List (String × Value) → List (String × String)
  | [] => []
  | (k, v) :: rest => (k, v.canonical) :: canonicalValues rest

end
end DocQuery
