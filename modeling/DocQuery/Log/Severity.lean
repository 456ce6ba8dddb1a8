/-! How severe an observed event is, and where its line goes. -/
namespace DocQuery

inductive Severity where
  | trace
  | info
  | warn
  | error
  | fatal
  deriving DecidableEq

/-- Where log lines are written. -/
inductive Channel where
  | output
  | errors
  deriving DecidableEq

namespace Severity

def all : List Severity := [trace, info, warn, error, fatal]

def name : Severity → String
  | trace => "TRACE"
  | info => "INFO"
  | warn => "WARN"
  | error => "ERROR"
  | fatal => "FATAL"

def ofName? (name : String) : Option Severity := all.find? (·.name = name)

/-- Reads a name in upper or lower case; letters beyond ASCII have no case here. -/
def parse? (text : String) : Option Severity := ofName? (String.ofList (text.toList.map Char.toUpper))

def level : Severity → Nat
  | trace => 0
  | info => 1
  | warn => 2
  | error => 3
  | fatal => 4

def channel (s : Severity) : Channel := if error.level ≤ s.level then .errors else .output

end Severity
end DocQuery
