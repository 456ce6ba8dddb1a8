import DocQuery.Proofs.Engine.Execute

/-! What is logged at a threshold. Of two contexts to which the same is done, one of which logs everything, the other
one has those of the lines that are severe enough, as far as their caches hold the same bad patterns when these are
asked for. -/
namespace DocQuery

open PatternCache (Choices Sound HeldAlike capacity faultLines)

namespace Logger

def passes (logger : Logger) (line : LogLine) : Bool := logger.enabled line.severity

/-- The logger that drops nothing. -/
def everything : Logger := ⟨.trace⟩

variable (logger : Logger) (s : Severity) (event : String) (fields : List (String × String))

@[simp] theorem log_everything : everything.log s event fields = [⟨s, event, fields⟩] := rfl

theorem log_eq_filter : logger.log s event fields = (everything.log s event fields).filter logger.passes := by
  rw [log_everything, log, List.filter_singleton, Bool.cond_eq_ite]
  rfl

theorem pass_eq_filter (line : LogLine) : logger.pass line = [line].filter logger.passes :=
  logger.log_eq_filter line.severity line.event line.fields

end Logger

theorem PatternCache.faultLines_eq_filter (logger : Logger) (rules : RegexRules) (request : PatternRequest) :
    faultLines logger rules request = (faultLines .everything rules request).filter logger.passes := by
  rw [faultLines, faultLines]
  split
  · exact logger.log_eq_filter _ _ _
  · rfl

/-- Where a logger has the lines of one context pass, they are left in another one, as far as lines are shown. The two
are at the same point of the same stage, but their caches may hold different patterns. -/
structure StageContext.Hushes (rules : RegexRules) (logger : Logger) (shown : LogLine → Bool)
    (loud quiet : StageContext) : Prop where
  loud_logger : loud.logger = .everything
  quiet_logger : quiet.logger = logger
  loud_sound : Sound rules loud.cache
  quiet_sound : Sound rules quiet.cache
  stage : quiet.stage = loud.stage
  asked : quiet.asked = loud.asked
  lines : quiet.lines.filter shown = (loud.lines.filter logger.passes).filter shown

/-- Whether it is shown that a request does not compile. -/
def FaultShown (rules : RegexRules) (shown : LogLine → Bool) (request : PatternRequest) : Prop :=
  (faultLines .everything rules request).filter shown ≠ []

/-- The pattern that is asked for. -/
def Act.request? : Act → Option PatternRequest
  | .ask request => some request
  | _ => none

namespace StageContext

variable {rules : RegexRules} {logger : Logger} {shown : LogLine → Bool} {evictions evictions' : Evictions}
  {loud quiet : StageContext}

/-- Recorded errors are guarded by the threshold that their lines have anyway. -/
theorem record_eq (ctx : StageContext) (error : EvalError) : ctx.record error =
    { ctx with errors := ctx.errors + 1 }.write
      (ctx.logger.report .evaluationError [("stage", ctx.stage), ("error", error.message)]) :=
  congrArg _ (ctx.logger.guarded_log .trace _ _)

theorem complete_eq (ctx : StageContext) (stage : String) (index output : Nat) : ctx.complete stage index output =
    { ctx with metrics := ctx.metrics.map Metrics.addStage }.write
      (ctx.logger.report .stageComplete
        [("stage", stage), ("index", toString index), ("output", toString output)]) :=
  congrArg _ (ctx.logger.guarded_log .trace _ _)

theorem Hushes.write (hushes : Hushes rules logger shown loud quiet) {lines lines' : List LogLine}
    (filtered : lines'.filter shown = (lines.filter logger.passes).filter shown) :
    Hushes rules logger shown (loud.write lines) (quiet.write lines') :=
  { hushes with
    lines := by rw [write_lines, write_lines, List.filter_append, List.filter_append, List.filter_append, hushes.lines,
      filtered] }

theorem Hushes.report (hushes : Hushes rules logger shown loud quiet) (event : Event)
    (fields : List (String × String)) :
    Hushes rules logger shown (loud.write (loud.logger.report event fields))
      (quiet.write (quiet.logger.report event fields)) := by
  refine hushes.write (congrArg _ ?_)
  rw [hushes.loud_logger, hushes.quiet_logger]
  exact logger.log_eq_filter _ _ _

/-- The same fault is reported to both, or to none if both caches hold it. -/
theorem Hushes.ask (hushes : Hushes rules logger shown loud quiet) {request : PatternRequest}
    (alike : FaultShown rules shown request → (request ∈ quiet.cache.requests ↔ request ∈ loud.cache.requests)) :
    Hushes rules logger shown (loud.perform evictions' (.ask request)) (quiet.perform evictions (.ask request)) := by
  refine ⟨hushes.loud_logger, hushes.quiet_logger, perform_sound _ hushes.loud_sound,
    perform_sound _ hushes.quiet_sound, hushes.stage, congrArg (· + 1) hushes.asked, ?_⟩
  change (quiet.lines ++ (fetchPattern quiet.logger _ _ request).2.lines).filter shown =
    ((loud.lines ++ (fetchPattern loud.logger _ _ request).2.lines).filter logger.passes).filter shown
  rw [hushes.quiet_sound.fetchPattern_lines, hushes.loud_sound.fetchPattern_lines, hushes.quiet_logger,
    hushes.loud_logger, List.filter_append, List.filter_append, List.filter_append, hushes.lines,
    PatternCache.faultLines_eq_filter logger]
  congr 1
  by_cases unseen : (faultLines .everything rules request).filter shown = []
  · have none : ((faultLines .everything rules request).filter logger.passes).filter shown = [] := by
      rw [List.filter_comm, unseen, List.filter_nil]
    split <;> split <;> simp only [none, List.filter_nil]
  · simp only [alike unseen]
    split <;> rfl

/-- What is logged of anything else does not depend on the cache. -/
theorem Hushes.perform (hushes : Hushes rules logger shown loud quiet) {act : Act} (other : act.request? = none) :
    Hushes rules logger shown (loud.perform evictions' act) (quiet.perform evictions act) := by
  obtain ⟨loud_logger, quiet_logger, loud_sound, quiet_sound, stage, asked, lines⟩ := hushes
  cases act with
  | ask request => contradiction
  | enter name => exact ⟨loud_logger, quiet_logger, loud_sound, quiet_sound, rfl, asked, lines⟩
  | record error =>
    have counted : Hushes rules logger shown { loud with errors := loud.errors + 1 }
        { quiet with errors := quiet.errors + 1 } :=
      ⟨loud_logger, quiet_logger, loud_sound, quiet_sound, stage, asked, lines⟩
    have told : quiet.logger.report .evaluationError [("stage", quiet.stage), ("error", error.message)] =
        quiet.logger.report .evaluationError [("stage", loud.stage), ("error", error.message)] := by rw [stage]
    rw [StageContext.perform, StageContext.perform, record_eq, record_eq, told]
    exact counted.report _ _
  | complete name index output =>
    have counted : Hushes rules logger shown { loud with metrics := loud.metrics.map Metrics.addStage }
        { quiet with metrics := quiet.metrics.map Metrics.addStage } :=
      ⟨loud_logger, quiet_logger, loud_sound, quiet_sound, stage, asked, lines⟩
    rw [StageContext.perform, StageContext.perform, complete_eq, complete_eq]
    exact counted.report _ _

/-- Whatever is done to both contexts, the lines of one remain those that the logger has of the other one pass. -/
theorem Hushes.after (hushes : Hushes rules logger shown loud quiet) {acts : List Act}
    (alike : HeldAlike (FaultShown rules shown) evictions evictions' quiet.asked quiet.cache loud.cache
      (acts.filterMap (·.request?))) :
    Hushes rules logger shown (loud.after evictions' acts) (quiet.after evictions acts) := by
  induction acts generalizing loud quiet with
  | nil => exact hushes
  | cons act acts ih =>
    cases asks : act.request? with
    | some request =>
      obtain rfl : act = .ask request := by
        cases act with
        | ask r => rw [Option.some.inj asks]
        | _ => contradiction
      rw [List.filterMap_cons_some asks] at alike
      have rest := alike.tail
      rw [PatternCache.ask, PatternCache.ask, hushes.asked] at rest
      refine ih (hushes.ask alike.head) ?_
      rw [perform_cache, perform_cache, hushes.asked]
      change HeldAlike _ _ _ (quiet.asked + 1) _ _ _
      rw [hushes.asked]
      exact rest
    | none =>
      rw [List.filterMap_cons_none asks] at alike
      have unasked (choices : Choices) (ctx : StageContext) :
          (ctx.perform choices act).cache = ctx.cache ∧ (ctx.perform choices act).asked = ctx.asked := by
        cases act with
        | ask request => contradiction
        | _ => exact ⟨rfl, rfl⟩
      refine ih (hushes.perform asks) ?_
      rwa [(unasked evictions quiet).1, (unasked evictions quiet).2, (unasked evictions' loud).1]

end StageContext

/-- The patterns that evaluations ask for. -/
def requestsOf (evaluations : List Evaluation) : List PatternRequest := evaluations.flatMap (·.requests)

theorem requestsOf_append (es es' : List Evaluation) : requestsOf (es ++ es') = requestsOf es ++ requestsOf es' :=
  List.flatMap_append

theorem requestsOf_singleton (e : Evaluation) : requestsOf [e] = e.requests := List.flatMap_singleton ..

theorem Evaluation.requests_acts (e : Evaluation) : e.acts.filterMap (·.request?) = e.requests := by
  have asked : (e.requests.map Act.ask).filterMap (·.request?) = e.requests := by
    rw [List.filterMap_map]
    exact List.filterMap_some
  rw [acts, List.filterMap_append, asked]
  cases e.error <;> exact List.append_nil _

theorem requests_stageActs (index : Nat) (reports : List StageReport) :
    (stageActs index reports).filterMap (·.request?) = requestsOf (reports.flatMap (·.evaluations)) := by
  induction reports generalizing index with
  | nil => rfl
  | cons report reports ih =>
    have evaluated : (report.evaluations.flatMap (·.acts)).filterMap (·.request?) = requestsOf report.evaluations := by
      rw [List.filterMap_flatMap]
      simp only [Evaluation.requests_acts]
      rfl
    rw [stageActs_cons, StageReport.acts, List.filterMap_append, ih, List.cons_append,
      List.filterMap_cons_none rfl, List.filterMap_append, evaluated, List.flatMap_cons, requestsOf_append]
    exact congrArg (· ++ _) (List.append_nil _)

/-- The patterns that an execution asks for. -/
def Execution.requests (e : Execution) : List PatternRequest := requestsOf (e.reports.flatMap (·.evaluations))

theorem Pipeline.requests_acts (p : Pipeline) (docs : List Document) (rules : RegexRules) :
    (p.acts docs rules).filterMap (·.request?) = (p.execute rules docs).requests := by
  rw [acts, List.filterMap_cons_none rfl, requests_stageActs]
  rfl

namespace Engine

/-- An engine of the same library and limit that logs everything. -/
def loud (engine : Engine) : Engine := { engine with config := { engine.config with logThreshold := .trace } }

/-- Stages log those of all lines that are severe enough, as far as lines are shown. -/
theorem ranContext_hushes {loud quiet : Engine} (everything : loud.config.logger = .everything)
    (same : quiet.rules = loud.rules) {evictions evictions' : Evictions} {p : Pipeline} {docs : List Document}
    {shown : LogLine → Bool} (alike : HeldAlike (FaultShown loud.rules shown) evictions evictions' 0
      (.empty loud.rules) (.empty loud.rules) (p.execute loud.rules docs).requests) :
    StageContext.Hushes loud.rules quiet.config.logger shown (loud.ranContext evictions' p docs)
      (quiet.ranContext evictions p docs) := by
  have sound : Sound loud.rules quiet.context.cache := by
    rw [← same]
    exact PatternCache.sound_empty quiet.rules
  have start : StageContext.Hushes loud.rules quiet.config.logger shown loud.context quiet.context :=
    ⟨everything, rfl, PatternCache.sound_empty loud.rules, sound, rfl, rfl, rfl⟩
  have begun : StageContext.Hushes loud.rules quiet.config.logger shown
      (loud.context.write (loud.config.logger.pass p.beginLine))
      (quiet.context.write (quiet.config.logger.pass p.beginLine)) := by
    refine start.write (congrArg _ ?_)
    rw [everything]
    exact quiet.config.logger.pass_eq_filter p.beginLine
  rw [ranContext, ranContext, same]
  refine begun.after ?_
  rw [p.requests_acts]
  change HeldAlike _ _ _ 0 (.empty quiet.rules) _ _
  rw [same]
  exact alike

/-- What stages log is filtered alone, if the same entries are evicted. -/
theorem ranContext_lines {loud quiet : Engine} (everything : loud.config.logger = .everything)
    (same : quiet.rules = loud.rules) {evictions : Evictions} {p : Pipeline} {docs : List Document} :
    (quiet.ranContext evictions p docs).lines =
      (loud.ranContext evictions p docs).lines.filter quiet.config.logger.passes := by
  have alike : HeldAlike (FaultShown loud.rules fun _ => true) evictions evictions 0 (.empty loud.rules)
      (.empty loud.rules) (p.execute loud.rules docs).requests := PatternCache.heldAlike_self
  have lines := (ranContext_hushes everything same alike).lines
  rwa [List.filter_true, List.filter_true] at lines

end Engine
end DocQuery
