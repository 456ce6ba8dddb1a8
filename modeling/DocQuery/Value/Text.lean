import DocQuery.Number.DoubleText
import DocQuery.Text.Base64
import DocQuery.Text.Quoted
import DocQuery.Value.Basic
import DocQuery.Value.TimestampText

/-! The text of a value for readers, which keeps the order of entries. -/
namespace DocQuery

mutual

def Value.text : Value → String
  | .null => "null"
  | .boolean b => if b then "true" else "false"
  | .integer i => toString i.toInt
  | .double d => d.text
  | .timestamp t => t.text
  | .string s => Quoted.encode s
  | .bytes bs => "b64:" ++ Base64.encode bs
  | .reference key => "/" ++ key.text
  | .geo point => "geo(" ++ point.latitude.text ++ ", " ++ point.longitude.text ++ ")"
  | .array items => "[" ++ ", ".intercalate (itemTexts items) ++ "]"
  | .map entries => "\x7b" ++ ", ".intercalate (entryTexts entries) ++ "\x7d"
  | .vector components => "vector[" ++ ", ".intercalate (components.map Double.text) ++ "]"

def itemTexts : List Value → List String
  | [] => []
  | v :: vs => v.text :: itemTexts vs

def entryTexts : List (String × Value) → List String
  | [] => []
  | (k, v) :: rest => (Quoted.encode k ++ ": " ++ v.text) :: entryTexts rest

end

instance : ToString Value := ⟨Value.text⟩

def Domain.name : Domain → String
  | .null => "Null"
  | .boolean => "Boolean"
  | .number => "Number"
  | .timestamp => "Timestamp"
  | .string => "String"
  | .bytes => "Bytes"
  | .reference => "Reference"
  | .geo => "GeoPoint"
  | .array => "Array"
  | .map => "Map"

end DocQuery
