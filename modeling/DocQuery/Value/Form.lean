import DocQuery.Value.Basic

/-! What the orders see of a value: vectors as the maps that stand for them, entries by key. -/
namespace DocQuery

/-- The number of an integer or double value. -/
inductive Number where
  | integer (i : Int64)
  | double (d : Double)
  deriving DecidableEq

inductive Form where
  | null
  | boolean (b : Bool)
  | number (n : Number)
  | timestamp (t : Timestamp)
  | string (s : String)
  | bytes (bs : List UInt8)
  | reference (key : DocumentKey)
  | geo (point : GeoPoint)
  | array (items : List Form)
  | map (entries : List (String × Form))

namespace Form

def domain : Form → Domain
  | null => .null
  | boolean _ => .boolean
  | number _ => .number
  | timestamp _ => .timestamp
  | string _ => .string
  | bytes _ => .bytes
  | reference _ => .reference
  | geo _ => .geo
  | array _ => .array
  | map _ => .map

def ofDouble (d : Double) : Form := number (.double d)

def ofVector (components : List Double) : Form :=
  map [(Value.vectorTypeKey, string Value.vectorTypeName),
    (Value.vectorItemsKey, array (components.map ofDouble))]

end Form

mutual

def Value.form : Value → Form
  | .null => .null
  | .boolean b => .boolean b
  | .integer i => .number (.integer i)
  | .double d => .number (.double d)
  | .timestamp t => .timestamp t
  | .string s => .string s
  | .bytes bs => .bytes bs
  | .reference key => .reference key
  | .geo point => .geo point
  | .array items => .array (formList items)
  | .map entries => .map (Entries.sortByKey (formEntries entries))
  | .vector components => .ofVector components

def formList : List Value → List Form
  | [] => []
  | v :: vs => v.form :: formList vs

def formEntries : List (String × Value) → List (String × Form)
  | [] => []
  | (k, v) :: rest => (k, v.form) :: formEntries rest

end
end DocQuery
