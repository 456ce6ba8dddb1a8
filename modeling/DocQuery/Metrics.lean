/-! Counters of what engines have done. They wrap around at 64 bits. -/
namespace DocQuery

structure Metrics where
  executed : UInt64 := 0
  rejected : UInt64 := 0
  stages : UInt64 := 0
  scanned : UInt64 := 0
  returned : UInt64 := 0
  errors : UInt64 := 0
  deriving DecidableEq

namespace Metrics

def addExecuted (m : Metrics) : Metrics := { m with executed := m.executed + 1 }
def addRejected (m : Metrics) : Metrics := { m with rejected := m.rejected + 1 }
def addStage (m : Metrics) : Metrics := { m with stages := m.stages + 1 }
def addScanned (m : Metrics) (n : UInt64) : Metrics := { m with scanned := m.scanned + n }
def addReturned (m : Metrics) (n : UInt64) : Metrics := { m with returned := m.returned + n }
def addErrors (m : Metrics) (n : UInt64) : Metrics := { m with errors := m.errors + n }

/-- The counters with their names, in the order in which they are shown. -/
def counters (m : Metrics) : List (String × UInt64) :=
  [("pipelines_executed", m.executed), ("pipelines_rejected", m.rejected),
    ("stages_executed", m.stages), ("documents_scanned", m.scanned),
    ("documents_returned", m.returned), ("evaluation_errors", m.errors)]

def counterText (counter : String × UInt64) : String :=
  "\"" ++ counter.1 ++ "\":" ++ toString counter.2.toNat

/-- The counters as a JSON object. -/
def text (m : Metrics) : String :=
  "\x7b" ++ ",".intercalate (m.counters.map counterText) ++ "\x7d"

end Metrics
end DocQuery
