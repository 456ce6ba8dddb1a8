import DocQuery.Path.Resource

/-! Why a pipeline is refused, and at which stage. Pipelines that are accepted never fail. -/
namespace DocQuery

inductive PipelineFault where
  | duplicateDocument (key : DocumentKey)
  | noDocuments
  | notBoolean (expression : String)
  | noSource (first : Option String)
  | lateSource (name : String)
  | notDocumentPath (path : String)
  | emptyTarget
  | zeroNeighbours
  deriving DecidableEq

/-- The classes that faults are reported under. -/
inductive FaultCode where
  | duplicateDocument
  | emptyDocuments
  | nonBooleanPredicate
  | invalidStageOrder
  | invalidArgument
  deriving DecidableEq

namespace FaultCode

def all : List FaultCode :=
  [duplicateDocument, emptyDocuments, nonBooleanPredicate, invalidStageOrder, invalidArgument]

def name : FaultCode → String
  | duplicateDocument => "PIPE_DUPLICATE_DOCUMENT"
  | emptyDocuments => "PIPE_EMPTY_DOCUMENTS"
  | nonBooleanPredicate => "PIPE_NON_BOOLEAN_PREDICATE"
  | invalidStageOrder => "PIPE_INVALID_STAGE_ORDER"
  | invalidArgument => "PIPE_INVALID_ARGUMENT"

/-- Every fault rejects the whole pipeline. -/
def severity (_ : FaultCode) : String := "REJECT"

end FaultCode

namespace PipelineFault

def code : PipelineFault → FaultCode
  | duplicateDocument _ => .duplicateDocument
  | noDocuments => .emptyDocuments
  | notBoolean _ => .nonBooleanPredicate
  | noSource _ | lateSource _ => .invalidStageOrder
  | notDocumentPath _ | emptyTarget | zeroNeighbours => .invalidArgument

def message : PipelineFault → String
  | duplicateDocument key => "Document '" ++ key.text ++ "' is referenced more than once"
  | noDocuments => "Documents stage requires at least one reference"
  | notBoolean expression => "'" ++ expression ++ "' is not a boolean expression"
  | noSource none => "pipeline must start with a source stage"
  | noSource (some name) => "pipeline must start with a source stage, found '" ++ name ++ "'"
  | lateSource name => "source stage '" ++ name ++ "' may only appear first"
  | notDocumentPath path => "'" ++ path ++ "' is not a document path"
  | emptyTarget => "find_nearest target vector must not be empty"
  | zeroNeighbours => "find_nearest limit must be positive"

end PipelineFault

/-- A fault and the position of the stage that has it, where it is known. -/
structure PipelineError where
  fault : PipelineFault
  stage : Option Nat
  deriving DecidableEq

namespace PipelineError

def code (e : PipelineError) : FaultCode := e.fault.code

def message (e : PipelineError) : String := e.fault.message

def text (e : PipelineError) : String :=
  let place :=
    match e.stage with
    | some i => " [stage " ++ toString i ++ "]"
    | none => ""
  "[" ++ e.code.severity ++ "] " ++ e.code.name ++ ": " ++ e.message ++ place

end PipelineError
end DocQuery
