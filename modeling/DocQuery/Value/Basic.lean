import DocQuery.Entries
import DocQuery.Number.Double
import DocQuery.Path.Resource
import DocQuery.Value.Timestamp

/-! The values of fields and expressions. -/
namespace DocQuery

structure GeoPoint where
  latitude : Double
  longitude : Double
  deriving DecidableEq

/-- The keys of a map are meant to be distinct; their order is that of first insertion. -/
inductive Value where
  | null
  | boolean (b : Bool)
  | integer (i : Int64)
  | double (d : Double)
  | timestamp (t : Timestamp)
  | string (s : String)
  | bytes (bs : List UInt8)
  | reference (key : DocumentKey)
  | geo (point : GeoPoint)
  | array (items : List Value)
  | map (entries : List (String × Value))
  | vector (components : List Double)
  deriving Inhabited

abbrev Fields := List (String × Value)

/-- Values of one domain can be compared; the domains themselves are ordered as listed. -/
inductive Domain where
  | null
  | boolean
  | number
  | timestamp
  | string
  | bytes
  | reference
  | geo
  | array
  | map
  deriving DecidableEq

def Domain.order (a b : Domain) : Ordering := compare a.ctorIdx b.ctorIdx

namespace Value

/-- A vector belongs to the maps, as the map that stands for it. -/
def domain : Value → Domain
  | null => .null
  | boolean _ => .boolean
  | integer _ | double _ => .number
  | timestamp _ => .timestamp
  | string _ => .string
  | bytes _ => .bytes
  | reference _ => .reference
  | geo _ => .geo
  | array _ => .array
  | map _ | vector _ => .map

def typeName : Value → String
  | null => "null"
  | boolean _ => "boolean"
  | integer _ => "integer"
  | double _ => "double"
  | timestamp _ => "timestamp"
  | string _ => "string"
  | bytes _ => "bytes"
  | reference _ => "reference"
  | geo _ => "geo_point"
  | array _ => "array"
  | map _ => "map"
  | vector _ => "vector"

def isNull : Value → Bool
  | null => true
  | _ => false

def isNumber : Value → Bool
  | integer _ | double _ => true
  | _ => false

def isNaN : Value → Bool
  | double d => d.isNaN
  | _ => false

def isTrue : Value → Bool
  | boolean b => b
  | _ => false

def vectorTypeKey : String := "__type__"
def vectorTypeName : String := "__vector__"
def vectorItemsKey : String := "value"

/-- The map that stands for a vector: a type mark, then the components as an array. -/
def vectorEntries (components : List Double) : Fields :=
  [(vectorTypeKey, string vectorTypeName), (vectorItemsKey, array (components.map double))]

/-- The entries of a map, or of the map that stands for a vector. -/
def entries? : Value → Option Fields
  | map entries => some entries
  | vector components => some (vectorEntries components)
  | _ => none

end Value
end DocQuery
