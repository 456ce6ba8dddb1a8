import DocQuery.Proofs.Pipeline.Composition

/-! What an execution does to its context. Between the two ends of its scope stages are entered, evaluate and are
completed; what is logged and counted on the way leaves no trace in the result. -/
namespace DocQuery

open PatternCache (Sound)

namespace Pipeline

variable (p : Pipeline) (docs : List Document)

/-- What is done between the ends of the scope: the source is completed, and then the stages run. -/
def acts (rules : RegexRules) : List Act :=
  .complete p.source.name 0 (p.source.rows docs).length ::
    stageActs 1 (runSteps rules (p.source.rows docs) p.steps).reports

theorem countP_acts (rules : RegexRules) : (p.acts docs rules).countP (·.fails) = (p.execute rules docs).errors := by
  rw [acts, List.countP_cons_of_neg Bool.false_ne_true, countP_stageActs]
  rfl

def beginLine : LogLine :=
  ⟨.info, "PIPELINE_EXECUTE_BEGIN", [("source", p.source.name), ("stages", toString p.length)]⟩

def completeLine (result : Completion) (elapsed : Nat) : LogLine :=
  ⟨.info, "PIPELINE_EXECUTE_COMPLETE", [("source", p.source.name), ("stages", toString p.length),
    ("returned", toString result.returned), ("scanned", toString result.scanned),
    ("evaluation_errors", toString result.errors), ("elapsed_us", toString elapsed)]⟩

end Pipeline

/-- The line, if it is severe enough. -/
def Logger.pass (logger : Logger) (line : LogLine) : List LogLine := logger.log line.severity line.event line.fields

theorem Logger.guarded_log (logger : Logger) (s : Severity) (event : String) (fields : List (String × String)) :
    (if logger.enabled s then logger.log s event fields else []) = logger.log s event fields := by
  rw [log]
  split <;> rfl

section Execution

variable (evictions : Evictions) (elapsed : Nat) (p : Pipeline) (docs : List Document)

/-- The beginning of a scope is one line, and so is its end; a scope that has been completed is closed silently. -/
theorem Scope.start_eq (logger : Logger) (event : Event) (fields : List (String × String)) :
    Scope.start logger event fields =
      (⟨event, fields, false⟩, logger.log event.severity (event.name ++ "_BEGIN") fields) := by
  rw [Scope.start, logger.guarded_log]

theorem Scope.complete_eq (scope : Scope) (logger : Logger) (results : List (String × String)) :
    scope.complete logger results = ({ scope with completed := true },
      logger.log scope.event.severity (scope.event.name ++ "_COMPLETE") (scope.fields ++ results)) := by
  rw [Scope.complete, logger.guarded_log]

/-- An execution has the result of the pipeline by itself, if there were no errors before. -/
theorem executeIn_eq {rules : RegexRules} {ctx : StageContext} (sound : Sound rules ctx.cache) (none : ctx.errors = 0) :
    let result := (p.execute rules docs).completion
    executeIn evictions elapsed p docs ctx =
      (result, ((((ctx.write (ctx.logger.pass p.beginLine)).after evictions (p.acts docs rules)).count result).write
        (ctx.logger.pass (p.completeLine result elapsed)))) := by
  intro result
  have begins : ctx.logger.log Event.pipelineExecute.severity (Event.pipelineExecute.name ++ "_BEGIN")
      [("source", p.source.name), ("stages", toString p.length)] = ctx.logger.pass p.beginLine := rfl
  have ends : ctx.logger.log Event.pipelineExecute.severity (Event.pipelineExecute.name ++ "_COMPLETE")
      ([("source", p.source.name), ("stages", toString p.length)] ++
        [("returned", toString result.returned), ("scanned", toString result.scanned),
          ("evaluation_errors", toString result.errors), ("elapsed_us", toString elapsed)]) =
      ctx.logger.pass (p.completeLine result elapsed) := rfl
  have run : Interpreted.runStages (runStage evictions) 1 (p.source.rows docs) p.steps
      ((ctx.write (ctx.logger.pass p.beginLine)).complete p.source.name 0 (p.source.rows docs).length) =
        ((result.rows, result.limitApplied),
          (ctx.write (ctx.logger.pass p.beginLine)).after evictions (p.acts docs rules)) :=
    runStages_yields evictions rules 1 (p.source.rows docs) p.steps _ sound
  have errors : ((ctx.write (ctx.logger.pass p.beginLine)).after evictions (p.acts docs rules)).errors =
      result.errors := by
    rw [StageContext.after_errors, p.countP_acts]
    exact (congrArg (· + _) none).trans (Nat.zero_add _)
  simp only [executeIn, Scope.start_eq, Scope.complete_eq, bind, StateT.bind, get, getThe, MonadStateOf.get, StateT.get,
    modify, modifyGet, MonadStateOf.modifyGet, StateT.modifyGet, pure]
  rw [begins, run]
  dsimp only
  rw [errors, ← ends, Scope.close, if_pos rfl, List.append_nil]
  rfl

end Execution

namespace Engine

variable (engine : Engine) (evictions : Evictions) (elapsed : Nat) (p : Pipeline) (docs : List Document)

/-- The context when the stages have run. -/
def ranContext (engine : Engine) (evictions : Evictions) (p : Pipeline) (docs : List Document) : StageContext :=
  (engine.context.write (engine.config.logger.pass p.beginLine)).after evictions (p.acts docs engine.rules)

theorem execute_eq : engine.execute evictions elapsed p docs =
    let result := (p.execute engine.rules docs).completion
    let ran := engine.ranContext evictions p docs
    ⟨result, ran.lines ++ engine.config.logger.pass (p.completeLine result elapsed),
      { engine with metrics := ran.metrics.map (·.addCompletion result) }⟩ := by
  have sound : Sound engine.rules engine.context.cache := PatternCache.sound_empty engine.rules
  rw [execute, StateT.run, executeIn_eq evictions elapsed p docs sound rfl]
  rfl

/-- Neither what is evicted nor what is logged and counted shows in the result of an execution. -/
theorem execute_result : (engine.execute evictions elapsed p docs).result = (p.execute engine.rules docs).completion :=
  congrArg Answered.result (engine.execute_eq evictions elapsed p docs)

end Engine
end DocQuery
