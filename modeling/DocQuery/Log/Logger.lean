import DocQuery.Log.Line

/-! A logger lets through what is at least as severe as its threshold. Logging yields lines; writing
them is left to others. -/
namespace DocQuery

structure Logger where
  threshold : Severity := .warn
  deriving DecidableEq

namespace Logger

def enabled (logger : Logger) (s : Severity) : Bool := logger.threshold.level ≤ s.level

def log (logger : Logger) (s : Severity) (event : String) (fields : List (String × String)) :
    List LogLine :=
  if logger.enabled s then [⟨s, event, fields⟩] else []

def report (logger : Logger) (event : Event) (fields : List (String × String)) : List LogLine :=
  logger.log event.severity event.name fields

end Logger

/-- A unit of work, reported when it begins and when it ends. -/
structure Scope where
  event : Event
  fields : List (String × String)
  completed : Bool

namespace Scope

def start (logger : Logger) (event : Event) (fields : List (String × String)) :
    Scope × List LogLine :=
  (⟨event, fields, false⟩,
    if logger.enabled event.severity then logger.log event.severity (event.name ++ "_BEGIN") fields
    else [])

/-- The end of the work, with fields for what came of it. -/
def complete (scope : Scope) (logger : Logger) (results : List (String × String)) :
    Scope × List LogLine :=
  ({ scope with completed := true },
    if logger.enabled scope.event.severity then
      logger.log scope.event.severity (scope.event.name ++ "_COMPLETE") (scope.fields ++ results)
    else [])

/-- Gives up the scope; work that has not been completed is reported. -/
def close (scope : Scope) (logger : Logger) : List LogLine :=
  if scope.completed then []
  else
    logger.log .warn (scope.event.name ++ "_INCOMPLETE")
      [("reason", "scope dropped without completion")]

end Scope
end DocQuery
