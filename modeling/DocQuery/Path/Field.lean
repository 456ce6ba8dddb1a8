import DocQuery.Text.Split

/-! Field paths address a field, possibly inside nested maps. Backticks quote a segment with dots. -/
namespace DocQuery

structure FieldPath where
  segments : List String
  deriving DecidableEq, Inhabited

/-- What a document has besides its fields. -/
inductive SyntheticField where
  | key
  | updateTime
  | createTime
  deriving DecidableEq

def SyntheticField.name : SyntheticField → String
  | .key => "__name__"
  | .updateTime => "__update_time__"
  | .createTime => "__create_time__"

namespace FieldPath

/-- Cuts at the dots outside quotes. A backtick switches quoting and leaves no trace. -/
def pieces : Bool → List Char → List (List Char)
  | _, [] => [[]]
  | quoted, c :: cs =>
    if c = '\x60' then pieces (!quoted) cs
    else if c = '.' ∧ quoted = false then [] :: pieces quoted cs
    else extendFirst c (pieces quoted cs)

def parse (text : String) : FieldPath := ⟨(pieces false text.toList).map String.ofList⟩

def segmentText (segment : String) : String :=
  if segment.toList.contains '.' then "\x60" ++ segment ++ "\x60" else segment

def text (path : FieldPath) : String := ".".intercalate (path.segments.map segmentText)

instance : ToString FieldPath := ⟨text⟩

/-- The synthetic field that a path of one reserved segment stands for. -/
def synthetic? (path : FieldPath) : Option SyntheticField :=
  [.key, .updateTime, .createTime].find? fun field => path.segments = [field.name]

end FieldPath
end DocQuery
