import DocQuery.Path.Field
import DocQuery.Value.OfJson

/-! Documents, and the rows that the stages of a pipeline pass on. A row may have lost its identity. -/
namespace DocQuery

structure Document where
  key : DocumentKey
  updateTime : Timestamp
  createTime : Option Timestamp
  fields : Fields

structure Row where
  key : Option DocumentKey
  updateTime : Option Timestamp
  createTime : Option Timestamp
  fields : Fields
  deriving Inhabited

/-- The field at the end of a path that leads through maps; the empty path leads nowhere. -/
def getField (fields : Fields) : List String → Option Value
  | [] => none
  | [key] => Entries.find? key fields
  | key :: rest =>
    match Entries.find? key fields with
    | some (.map inner) => getField inner rest
    | _ => none

/-- The map that a write below a field goes into: the map that is there, or a new one. -/
def mapBelow (fields : Fields) (key : String) : Fields :=
  match Entries.find? key fields with
  | some (.map inner) => inner
  | _ => []

/-- Writes a field. Whatever is in the way and not a map gives way to one. -/
def setField (fields : Fields) : List String → Value → Fields
  | [], _ => fields
  | [key], value => Entries.insert key value fields
  | key :: rest, value =>
    Entries.insert key (.map (setField (mapBelow fields key) rest value)) fields

namespace Row

def lookup (row : Row) (path : FieldPath) : Option Value :=
  match path.synthetic? with
  | some .key => row.key.map .reference
  | some .updateTime => row.updateTime.map .timestamp
  | some .createTime => row.createTime.map .timestamp
  | none => getField row.fields path.segments

def ofFields (fields : Fields) : Row := ⟨none, none, none, fields⟩

end Row

namespace Document

def toRow (doc : Document) : Row :=
  ⟨some doc.key, some doc.updateTime, doc.createTime, doc.fields⟩

/-- A document with the members of a JSON object as its fields; none where the path names no
document or the value is no object. -/
def ofValue? (path : String) (updateTime : Timestamp) (body : Value) : Option Document := do
  let key ← DocumentKey.parse? path
  match body with
  | .map fields => some ⟨key, updateTime, none, fields⟩
  | _ => none

end Document
end DocQuery
