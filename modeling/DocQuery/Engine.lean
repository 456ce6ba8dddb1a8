import DocQuery.Config
import DocQuery.Eval.Context
import DocQuery.Pipeline.Interpreted
import DocQuery.Regex.Library

/-! An engine prepares and executes pipelines, reports what happens and counts it. -/
namespace DocQuery

open PatternCache (Choices)

structure Engine where
  config : Config
  metrics : Option Metrics
  library : RegexLibrary := Regex.rules

/-- The outcome of a call with the log lines it wrote and the engine after it. -/
structure Answered (α : Type) where
  result : α
  lines : List LogLine
  engine : Engine

def Metrics.addCompletion (m : Metrics) (result : Completion) : Metrics :=
  ((m.addExecuted.addScanned (.ofNat result.scanned)).addReturned (.ofNat result.returned)).addErrors
    (.ofNat result.errors)

def StageContext.count (ctx : StageContext) (result : Completion) : StageContext :=
  { ctx with metrics := ctx.metrics.map (·.addCompletion result) }

section Execution

variable (choices : Choices)

/-- Runs a step as a numbered stage, which is told to its evaluations and completed after them. -/
def runStage (index : Nat) (rows : List Row) (step : Step) : InContext (List Row) := do
  modify (·.enter step.name)
  let done ← Interpreted.runStep (observeIn choices) rows step
  modify (·.complete step.name index done.length)
  return done

/-- Executes a pipeline, within a scope that tells how long it took. -/
def executeIn (elapsed : Nat) (p : Pipeline) (docs : List Document) : InContext Completion := do
  let logger := (← get).logger
  let (scope, begun) := Scope.start logger .pipelineExecute
    [("source", p.source.name), ("stages", toString p.length)]
  modify (·.write begun)
  let chosen := p.source.rows docs
  modify (·.complete p.source.name 0 chosen.length)
  let (rows, limited) ← Interpreted.runStages (runStage choices) 1 chosen p.steps
  let result : Completion := ⟨rows, docs.length, limited, (← get).errors⟩
  modify (·.count result)
  let (scope, ended) := scope.complete logger
    [("returned", toString result.returned), ("scanned", toString result.scanned),
      ("evaluation_errors", toString result.errors), ("elapsed_us", toString elapsed)]
  modify (·.write (ended ++ scope.close logger))
  return result

end Execution

namespace Engine

/-- An engine with counters of its own, if it is to have any. -/
def ofConfig (config : Config) : Engine :=
  { config, metrics := if config.collectMetrics then some {} else none }

/-- Shares the counters of others. -/
def withMetrics (engine : Engine) (m : Metrics) : Engine := { engine with metrics := some m }

def countWith (engine : Engine) (count : Metrics → Metrics) : Engine :=
  { engine with metrics := engine.metrics.map count }

/-- The rules of the library under the limit of the engine. -/
def rules (engine : Engine) : RegexRules := engine.library engine.config.regexSizeLimit

/-- What an execution begins with. -/
def context (engine : Engine) : StageContext where
  cache := .empty engine.rules
  logger := engine.config.logger
  metrics := engine.metrics

/-- Evaluates an expression on its own, asking a cache for the patterns in it. -/
def evaluate (engine : Engine) (choices : Choices) (cache : PatternCache) (row : Row) (e : Expr) :
    Outcome × Reported :=
  let (outcome, ctx) := (evaluateIn choices row e).run { engine.context with cache := cache }
  (outcome, ⟨ctx.lines, ctx.cache⟩)

/-- Builds a pipeline; a refusal is reported and counted. -/
def prepare (engine : Engine) (builder : PipelineBuilder) :
    Answered (Except PipelineError Pipeline) :=
  match builder.build with
  | .ok p => ⟨.ok p, [], engine⟩
  | .error e =>
    let stage := (e.stage.map toString).getD ""
    ⟨.error e,
      engine.config.logger.report .pipelineRejected
        [("code", e.code.name), ("message", e.message), ("stage", stage)],
      engine.countWith Metrics.addRejected⟩

/-- Executes a pipeline in a given time of microseconds. -/
def execute (engine : Engine) (choices : Choices) (elapsed : Nat) (p : Pipeline)
    (docs : List Document) : Answered Completion :=
  let (result, ctx) := (executeIn choices elapsed p docs).run engine.context
  ⟨result, ctx.lines, { engine with metrics := ctx.metrics }⟩

end Engine
end DocQuery
