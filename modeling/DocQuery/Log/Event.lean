import DocQuery.Log.Severity

/-! The events that the engine reports. -/
namespace DocQuery

inductive Event where
  | configLoaded
  | pipelineRejected
  | pipelineExecute
  | stageComplete
  | evaluationError
  | invalidRegex
  deriving DecidableEq

namespace Event

def all : List Event :=
  [configLoaded, pipelineRejected, pipelineExecute, stageComplete, evaluationError, invalidRegex]

def name : Event → String
  | configLoaded => "CONFIG_LOADED"
  | pipelineRejected => "PIPELINE_REJECTED"
  | pipelineExecute => "PIPELINE_EXECUTE"
  | stageComplete => "STAGE_COMPLETE"
  | evaluationError => "EVALUATION_ERROR"
  | invalidRegex => "INVALID_REGEX"

def ofName? (name : String) : Option Event := all.find? (·.name = name)

def severity : Event → Severity
  | configLoaded | pipelineExecute => .info
  | pipelineRejected | invalidRegex => .warn
  | stageComplete | evaluationError => .trace

end Event
end DocQuery
