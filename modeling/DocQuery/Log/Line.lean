import DocQuery.Entries
import DocQuery.Log.Event

/-! Log lines: JSON objects of texts, each on a line of its own. -/
namespace DocQuery

structure LogLine where
  severity : Severity
  event : String
  fields : List (String × String)
  deriving DecidableEq

namespace LogLine

def isControl (c : Char) : Bool := c.toNat < 32 || (127 ≤ c.toNat && c.toNat < 160)

/-- Four hexadecimal digits; controls need no more than two. -/
def codeEscape (c : Char) : List Char :=
  ['\\', 'u', '0', '0', Nat.digitChar (c.toNat / 16), Nat.digitChar (c.toNat % 16)]

def escape (c : Char) : List Char :=
  match c with
  | '"' => ['\\', '"']
  | '\\' => ['\\', '\\']
  | '\n' => ['\\', 'n']
  | '\r' => ['\\', 'r']
  | '\t' => ['\\', 't']
  | c => if isControl c then codeEscape c else [c]

def quoted (s : String) : List Char := '"' :: s.toList.flatMap escape ++ ['"']

def member (field : String × String) : List Char := quoted field.1 ++ ':' :: quoted field.2

/-- The event and the severity, then the other fields by key. -/
def members (line : LogLine) : List (String × String) :=
  ("event", line.event) :: ("severity", line.severity.name) :: Entries.sortByKey line.fields

def text (line : LogLine) : String :=
  String.ofList ('\x7b' :: [','].intercalate (line.members.map member) ++ ['\x7d', '\n'])

end LogLine
end DocQuery
