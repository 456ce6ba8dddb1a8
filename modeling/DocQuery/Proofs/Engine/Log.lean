import DocQuery.Proofs.Engine.Thresholds
import DocQuery.Regex.Library

/-! The log of an execution. When nothing is dropped it begins with a line for the pipeline, has for each stage those of
its evaluations and then one for its completion, and ends with a line for the pipeline. -/
namespace DocQuery

open PatternCache (Choices HeldAlike callsFrom capacity faultLines reportCalls)

/-- The line without the time that the work took. -/
def LogLine.masked (line : LogLine) : LogLine :=
  { line with fields := line.fields.map fun (key, value) => (key, if key = "elapsed_us" then "*" else value) }

/-- Whether the line is one for an event, other than the beginning or the end of a scope. -/
def LogLine.tells (event : Event) (line : LogLine) : Bool := line.event = event.name

/-! What is logged of stages when nothing is dropped. -/

section Stages

def errorLine (stage : String) (error : EvalError) : LogLine :=
  ⟨.trace, "EVALUATION_ERROR", [("stage", stage), ("error", error.message)]⟩

def StageReport.completeLine (report : StageReport) (index : Nat) : LogLine :=
  ⟨.trace, "STAGE_COMPLETE", [("stage", report.name), ("index", toString index), ("output", toString report.output)]⟩

/-- The lines of the evaluations of a stage: one for each error, in order, and those of asking the cache for each
pattern, in order, after so many others. -/
structure StageLog (choices : Choices) (cache : PatternCache) (asked : Nat) (stage : String)
    (evaluations : List Evaluation) (lines : List LogLine) : Prop where
  errors : lines.filter (·.tells .evaluationError) = (evaluations.filterMap (·.error)).map (errorLine stage)
  faults : lines.filter (·.tells .invalidRegex) =
    (reportCalls .everything cache (callsFrom choices asked (requestsOf evaluations))).lines
  only : ∀ line ∈ lines, line.tells .evaluationError ∨ line.tells .invalidRegex

/-- The lines of stages, the first of which has a certain index: those of its evaluations, and one for its
completion. -/
inductive StagesLog (choices : Choices) : PatternCache → Nat → Nat → List StageReport → List LogLine → Prop where
  | nil {cache asked index} : StagesLog choices cache asked index [] []
  | cons {cache asked index report reports body lines}
      (evaluated : StageLog choices cache asked report.name report.evaluations body)
      (others : StagesLog choices (cache.after (callsFrom choices asked (requestsOf report.evaluations)))
        (asked + (requestsOf report.evaluations).length) (index + 1) reports lines) :
      StagesLog choices cache asked index (report :: reports) (body ++ report.completeLine index :: lines)

section Evaluations

variable {choices : Choices} {cache : PatternCache} {asked : Nat} {stage : String}

theorem StageLog.nil : StageLog choices cache asked stage [] [] where
  errors := rfl
  faults := rfl
  only _ member := by contradiction

theorem StageLog.append {es es' : List Evaluation} {lines lines' : List LogLine}
    (first : StageLog choices cache asked stage es lines)
    (second : StageLog choices (cache.after (callsFrom choices asked (requestsOf es)))
      (asked + (requestsOf es).length) stage es' lines') :
    StageLog choices cache asked stage (es ++ es') (lines ++ lines') := by
  constructor
  · rw [List.filter_append, first.errors, second.errors, List.filterMap_append, List.map_append]
  · rw [List.filter_append, first.faults, second.faults, requestsOf_append, PatternCache.callsFrom_append,
      PatternCache.reportCalls_append]
  · intro line member
    rcases List.mem_append.mp member with h | h
    · exact first.only line h
    · exact second.only line h

theorem stageLog_reportCalls (requests : List PatternRequest) : StageLog choices cache asked stage [⟨requests, none⟩]
    (reportCalls .everything cache (callsFrom choices asked requests)).lines := by
  have tells : ∀ line ∈ (reportCalls .everything cache (callsFrom choices asked requests)).lines,
      ∀ event, line.tells event = (Event.invalidRegex.name = event.name : Bool) := by
    intro line member event
    rw [LogLine.tells, (PatternCache.mem_reportCalls member).2]
  constructor
  · refine List.filter_eq_nil_iff.mpr fun line member => ?_
    rw [tells line member]
    decide
  · rw [requestsOf_singleton]
    exact List.filter_eq_self.mpr fun line member => tells line member _
  · intro line member
    exact .inr (tells line member _)

theorem stageLog_errorLine (error : EvalError) :
    StageLog choices cache asked stage [⟨[], some error⟩] [errorLine stage error] := by
  constructor
  · rfl
  · rfl
  · intro line member
    left
    rw [List.mem_singleton.mp member]
    rfl

end Evaluations

/-- What evaluations make of a context that logs everything. -/
structure StageContext.Evaluated (choices : Choices) (evaluations : List Evaluation) (before later : StageContext) :
    Prop where
  logger : later.logger = .everything
  stage : later.stage = before.stage
  cache : later.cache = before.cache.after (callsFrom choices before.asked (requestsOf evaluations))
  asked : later.asked = before.asked + (requestsOf evaluations).length
  log : ∃ body, later.lines = before.lines ++ body ∧
    StageLog choices before.cache before.asked before.stage evaluations body

namespace StageContext

variable {choices : Choices} {ctx : StageContext}

theorem after_asks (requests : List PatternRequest) :
    let calls := callsFrom choices ctx.asked requests
    ctx.after choices (requests.map .ask) =
      { ctx with cache := ctx.cache.after calls, asked := ctx.asked + requests.length }.write
        (reportCalls ctx.logger ctx.cache calls).lines := by
  induction requests generalizing ctx with
  | nil => simp [callsFrom, reportCalls, write]
  | cons request requests ih =>
    let fetched := (fetchPattern ctx.logger (choices ctx.asked) ctx.cache request).2
    have asked : ctx.perform choices (.ask request) =
        { ctx with cache := fetched.cache, asked := ctx.asked + 1 }.write fetched.lines := rfl
    have cache : fetched.cache = (ctx.cache.ask ⟨request, choices ctx.asked⟩).cache := PatternCache.fetchPattern_cache
    intro calls
    rw [List.map_cons, after_cons, ih, asked]
    simp only [write, calls, callsFrom, PatternCache.after_cons, PatternCache.reportCalls_cons, ← cache, fetched,
      List.length_cons, List.append_assoc, Nat.add_assoc, Nat.add_comm 1]

theorem Evaluated.append {es es' : List Evaluation} {first second third : StageContext}
    (h : Evaluated choices es first second) (h' : Evaluated choices es' second third) :
    Evaluated choices (es ++ es') first third := by
  obtain ⟨body, lines, log⟩ := h.log
  obtain ⟨body', lines', log'⟩ := h'.log
  refine ⟨h'.logger, h'.stage.trans h.stage, ?_, ?_, body ++ body', ?_, log.append ?_⟩
  · rw [h'.cache, h.cache, h.asked, requestsOf_append, PatternCache.callsFrom_append, PatternCache.after_append]
  · rw [h'.asked, h.asked, requestsOf_append, List.length_append, Nat.add_assoc]
  · rw [lines', lines, List.append_assoc]
  · rwa [h.cache, h.asked, h.stage] at log'

/-- An evaluation is logged as its patterns alone, and then as its error alone. -/
theorem evaluated_acts (choices : Choices) (loud : ctx.logger = .everything) (e : Evaluation) :
    Evaluated choices [e] ctx (ctx.after choices e.acts) := by
  obtain ⟨requests, error⟩ := e
  have patterns : Evaluated choices [⟨requests, none⟩] ctx (ctx.after choices (requests.map .ask)) := by
    rw [after_asks]
    refine ⟨loud, rfl, ?_, ?_, _, rfl, ?_⟩
    · rw [requestsOf_singleton]
      rfl
    · rw [requestsOf_singleton]
      rfl
    · rw [loud]
      exact stageLog_reportCalls requests
  cases error with
  | none =>
    rw [Evaluation.acts, Option.map_none, Option.toList_none, List.append_nil]
    exact patterns
  | some error =>
    rw [Evaluation.acts, Option.map_some, Option.toList_some, after_append]
    generalize ctx.after choices (requests.map .ask) = asked at patterns ⊢
    have line : (asked.perform choices (.record error)).lines = asked.lines ++ [errorLine asked.stage error] := by
      rw [perform, record_eq, patterns.logger]
      rfl
    have recorded : Evaluated choices [⟨[], some error⟩] asked (asked.perform choices (.record error)) :=
      ⟨patterns.logger, rfl, rfl, rfl, _, line, stageLog_errorLine error⟩
    obtain ⟨logger, stage, cache, count, body, lines, log⟩ := patterns.append recorded
    have both : requestsOf [⟨requests, none⟩, ⟨[], some error⟩] = requestsOf [⟨requests, some error⟩] := by
      simp [requestsOf]
    rw [List.singleton_append, both] at cache count
    refine ⟨logger, stage, cache, count, body, lines, log.errors, ?_, log.only⟩
    rw [← both]
    exact log.faults

theorem evaluated_flatMap_acts (choices : Choices) (loud : ctx.logger = .everything)
    (evaluations : List Evaluation) :
    Evaluated choices evaluations ctx (ctx.after choices (evaluations.flatMap (·.acts))) := by
  induction evaluations generalizing ctx with
  | nil => exact ⟨loud, rfl, rfl, rfl, [], (List.append_nil _).symm, .nil⟩
  | cons e evaluations ih =>
    have first := evaluated_acts choices loud e
    rw [List.flatMap_cons, after_append, ← List.singleton_append]
    exact first.append (ih first.logger)

/-- Stages log their evaluations and then their completion. -/
theorem stagesLog_stageActs (choices : Choices) (index : Nat) (reports : List StageReport)
    (loud : ctx.logger = .everything) :
    ∃ stages, (ctx.after choices (stageActs index reports)).lines = ctx.lines ++ stages ∧
      StagesLog choices ctx.cache ctx.asked index reports stages := by
  induction reports generalizing ctx index with
  | nil => exact ⟨[], (List.append_nil _).symm, .nil⟩
  | cons report reports ih =>
    obtain ⟨logger, stage, cache, asked, body, lines, log⟩ :=
      evaluated_flatMap_acts choices (show (ctx.enter report.name).logger = .everything from loud) report.evaluations
    rw [stageActs_cons, StageReport.acts, after_append, List.cons_append, after_cons, after_append]
    change ∃ stages, ((((ctx.enter report.name).after choices (report.evaluations.flatMap (·.acts))).perform choices
      (.complete report.name index report.output)).after choices _).lines = _ ∧ _
    generalize (ctx.enter report.name).after choices (report.evaluations.flatMap (·.acts)) = evaluated at *
    have line : (evaluated.perform choices (.complete report.name index report.output)).lines =
        evaluated.lines ++ [report.completeLine index] := by
      rw [perform, complete_eq, logger]
      rfl
    have loud' : (evaluated.perform choices (.complete report.name index report.output)).logger = .everything := logger
    obtain ⟨stages, others, rest⟩ := ih (index + 1) loud'
    refine ⟨body ++ report.completeLine index :: stages, ?_, .cons log ?_⟩
    · rw [others, line, lines, List.append_assoc, List.append_assoc]
      rfl
    · have same : (evaluated.perform choices (.complete report.name index report.output)).cache = evaluated.cache :=
        rfl
      have count : (evaluated.perform choices (.complete report.name index report.output)).asked = evaluated.asked :=
        rfl
      rw [same, count, cache, asked] at rest
      exact rest

end StageContext

/-- The lines for errors are as many as there are errors. -/
theorem StagesLog.length_errors {choices : Choices} {cache : PatternCache} {asked index : Nat}
    {reports : List StageReport} {lines : List LogLine} (log : StagesLog choices cache asked index reports lines) :
    (lines.filter (·.tells .evaluationError)).length = errorCount (reports.flatMap (·.evaluations)) := by
  induction log with
  | nil => rfl
  | @cons cache asked index report reports body lines evaluated others ih =>
    have complete : (report.completeLine index).tells .evaluationError = false := rfl
    rw [List.filter_append, List.filter_cons_of_neg (by rw [complete]; decide), List.length_append, ih,
      evaluated.errors, List.length_map, List.length_filterMap_eq_countP, List.flatMap_cons, errorCount, errorCount,
      List.countP_append]

/-- The lines for faults are those of asking for all patterns. -/
theorem StagesLog.faults {choices : Choices} {cache : PatternCache} {asked index : Nat} {reports : List StageReport}
    {lines : List LogLine} (log : StagesLog choices cache asked index reports lines) :
    lines.filter (·.tells .invalidRegex) = (reportCalls .everything cache
      (callsFrom choices asked (requestsOf (reports.flatMap (·.evaluations))))).lines := by
  induction log with
  | nil => rfl
  | @cons cache asked index report reports body lines evaluated others ih =>
    have complete : (report.completeLine index).tells .invalidRegex = false := rfl
    rw [List.filter_append, List.filter_cons_of_neg (by rw [complete]; decide), evaluated.faults, ih,
      List.flatMap_cons, requestsOf_append, PatternCache.callsFrom_append, PatternCache.reportCalls_append]

/-- Lines of stages are for errors, faults and completions. -/
theorem StagesLog.tells {choices : Choices} {cache : PatternCache} {asked index : Nat} {reports : List StageReport}
    {lines : List LogLine} (log : StagesLog choices cache asked index reports lines) :
    ∀ line ∈ lines, ∃ event ∈ [Event.evaluationError, .invalidRegex, .stageComplete], line.tells event := by
  induction log with
  | nil =>
    intro line member
    contradiction
  | @cons cache asked index report reports body lines evaluated others ih =>
    intro line member
    rw [List.mem_append, List.mem_cons] at member
    rcases member with h | rfl | h
    · rcases evaluated.only line h with error | fault
      · exact ⟨.evaluationError, by decide, error⟩
      · exact ⟨.invalidRegex, by decide, fault⟩
    · exact ⟨.stageComplete, by decide, rfl⟩
    · exact ih line h

end Stages

theorem Pipeline.masked_completeLine (p : Pipeline) (result : Completion) (elapsed elapsed' : Nat) :
    (p.completeLine result elapsed).masked = (p.completeLine result elapsed').masked := by
  simp [completeLine, LogLine.masked]

theorem requestsOf_filterRows (rules : RegexRules) (condition : Condition) (rows : List Row) :
    requestsOf (filterRows rules condition rows).evaluations = rows.flatMap (requests rules · condition.toExpr) := by
  have evaluations : (filterRows rules condition rows).evaluations =
      (rows.map fun row => observe rules row condition.toExpr).flatMap (·.evaluations) := List.append_nil _
  rw [evaluations, requestsOf, List.flatMap_map, List.flatMap_assoc]
  simp only [observe, List.flatMap_singleton]

/-- Whenever an execution asks for a pattern that does not compile, the caches of two runs both hold it or neither
does. -/
def Execution.FaultsHeldAlike (e : Execution) (rules : RegexRules) (evictions evictions' : Evictions) : Prop :=
  HeldAlike (fun request => ∃ reason, PatternCache.compiled rules request = .error reason) evictions evictions' 0
    (.empty rules) (.empty rules) e.requests

theorem exists_reason_of_faultShown {rules : RegexRules} {shown : LogLine → Bool} {request : PatternRequest}
    (fault : FaultShown rules shown request) : ∃ reason, PatternCache.compiled rules request = .error reason := by
  rw [FaultShown, faultLines] at fault
  cases result : PatternCache.compiled rules request with
  | error reason => exact ⟨reason, rfl⟩
  | ok pattern =>
    rw [result] at fault
    contradiction

theorem Execution.FaultsHeldAlike.faultShown {e : Execution} {rules : RegexRules} {evictions evictions' : Evictions}
    (alike : e.FaultsHeldAlike rules evictions evictions') (shown : LogLine → Bool) :
    HeldAlike (FaultShown rules shown) evictions evictions' 0 (.empty rules) (.empty rules) e.requests :=
  fun earlier request later same fault => alike earlier request later same (exists_reason_of_faultShown fault)

theorem faultLines_filter_eq_nil (rules : RegexRules) (request : PatternRequest) :
    (faultLines .everything rules request).filter (!·.tells .invalidRegex) = [] := by
  rw [faultLines]
  split <;> rfl

namespace Engine

/-- Between the beginning and the end of an execution stand the lines of its stages. -/
theorem ranContext_log {engine : Engine} (everything : engine.config.logger = .everything) (evictions : Evictions)
    (p : Pipeline) (docs : List Document) : ∃ stages,
      StagesLog evictions (.empty engine.rules) 0 0 (p.execute engine.rules docs).reports stages ∧
        (engine.ranContext evictions p docs).lines = p.beginLine :: stages := by
  let source : StageReport := ⟨p.source.name, (p.source.rows docs).length, []⟩
  let begun := (engine.context.write (engine.config.logger.pass p.beginLine)).complete source.name 0 source.output
  have lines : begun.lines = [p.beginLine, source.completeLine 0] := by
    rw [show begun = _ from StageContext.complete_eq .., StageContext.write_lines, StageContext.write_lines]
    change [] ++ engine.config.logger.pass p.beginLine ++ engine.config.logger.report .stageComplete _ = _
    rw [everything]
    rfl
  have loud : begun.logger = .everything := everything
  obtain ⟨stages, rest, log⟩ := StageContext.stagesLog_stageActs evictions 1
    (runSteps engine.rules (p.source.rows docs) p.steps).reports loud
  refine ⟨[] ++ source.completeLine 0 :: stages, .cons .nil log, ?_⟩
  rw [lines] at rest
  exact rest

/-- An execution logs those of the lines of another one that are severe enough, but for the time that is given in the
last one, and as far as lines are shown. -/
theorem masked_lines_eq_filter {loud quiet : Engine} (everything : loud.config.logger = .everything)
    (same : quiet.rules = loud.rules) {evictions evictions' : Evictions} (elapsed elapsed' : Nat) {p : Pipeline}
    {docs : List Document} {shown : LogLine → Bool}
    (alike : HeldAlike (FaultShown loud.rules shown) evictions evictions' 0 (.empty loud.rules) (.empty loud.rules)
      (p.execute loud.rules docs).requests) (timeless : shown ∘ LogLine.masked = shown) :
    ((quiet.execute evictions elapsed p docs).lines.map LogLine.masked).filter shown =
      (((loud.execute evictions' elapsed' p docs).lines.map LogLine.masked).filter quiet.config.logger.passes).filter
        shown := by
  let result := (p.execute loud.rules docs).completion
  have severity : quiet.config.logger.passes ∘ LogLine.masked = quiet.config.logger.passes := rfl
  have ran : ((quiet.ranContext evictions p docs).lines.map LogLine.masked).filter shown =
      (((loud.ranContext evictions' p docs).lines.map LogLine.masked).filter quiet.config.logger.passes).filter
        shown := by
    rw [List.filter_map, List.filter_map, List.filter_map, timeless, severity,
      (ranContext_hushes everything same alike).lines]
  have ended : (quiet.config.logger.pass (p.completeLine result elapsed)).map LogLine.masked =
      ([p.completeLine result elapsed'].map LogLine.masked).filter quiet.config.logger.passes := by
    have timed : quiet.config.logger.passes (p.completeLine result elapsed') =
        quiet.config.logger.passes (p.completeLine result elapsed) := rfl
    rw [List.filter_map, severity, Logger.pass_eq_filter, List.filter_singleton, List.filter_singleton, timed]
    cases quiet.config.logger.passes (p.completeLine result elapsed) with
    | false => rfl
    | true => exact congrArg ([·]) (p.masked_completeLine result elapsed elapsed')
  rw [execute_eq, execute_eq, same, everything]
  dsimp only
  rw [List.map_append, List.filter_append, ran, ended, List.map_append, List.filter_append, List.filter_append]
  rfl

/-- An engine logs what it would log if it dropped nothing, less what it does not pass. -/
theorem execute_lines (engine : Engine) (evictions : Evictions) (elapsed : Nat) (p : Pipeline) (docs : List Document) :
    ∃ stages, StagesLog evictions (.empty engine.rules) 0 0 (p.execute engine.rules docs).reports stages ∧
      (engine.execute evictions elapsed p docs).lines =
        (p.beginLine :: stages ++ [p.completeLine (p.execute engine.rules docs).completion elapsed]).filter
          engine.config.logger.passes := by
  have everything : engine.loud.config.logger = .everything := rfl
  have same : engine.rules = engine.loud.rules := rfl
  obtain ⟨stages, log, lines⟩ := ranContext_log everything evictions p docs
  refine ⟨stages, log, ?_⟩
  rw [List.filter_append, ← lines, ← ranContext_lines everything same, ← Logger.pass_eq_filter, execute_eq]

theorem event_of_mem_lines {engine : Engine} {evictions : Evictions} {elapsed : Nat} {p : Pipeline}
    {docs : List Document} {line : LogLine} (member : line ∈ (engine.execute evictions elapsed p docs).lines) :
    line.event ≠ "PIPELINE_EXECUTE_INCOMPLETE" := by
  have others : ∀ event : Event, event.name ≠ "PIPELINE_EXECUTE_INCOMPLETE" := by
    intro event
    cases event <;> decide
  obtain ⟨stages, log, lines⟩ := engine.execute_lines evictions elapsed p docs
  rw [lines] at member
  rcases List.mem_append.mp (List.mem_of_mem_filter member) with ran | ended
  · rcases List.mem_cons.mp ran with rfl | stage
    · change "PIPELINE_EXECUTE_BEGIN" ≠ _
      decide
    · obtain ⟨event, _, tells⟩ := log.tells line stage
      rw [of_decide_eq_true tells]
      exact others event
  · rw [List.mem_singleton.mp ended]
    change "PIPELINE_EXECUTE_COMPLETE" ≠ _
    decide

/-- Of patterns that do not compile an engine logs what the cache reports, if it logs warnings. -/
theorem faults_of_execute {engine : Engine} (warns : engine.config.logger.enabled .warn) (evictions : Evictions)
    (elapsed : Nat) (p : Pipeline) (docs : List Document) :
    (engine.execute evictions elapsed p docs).lines.filter (·.tells .invalidRegex) =
      (reportCalls .everything (.empty engine.rules)
        (callsFrom evictions 0 (p.execute engine.rules docs).requests)).lines := by
  obtain ⟨stages, log, lines⟩ := engine.execute_lines evictions elapsed p docs
  have first : p.beginLine.tells .invalidRegex = false := rfl
  have last : (p.completeLine (p.execute engine.rules docs).completion elapsed).tells .invalidRegex = false := rfl
  have warned : ∀ line ∈ stages.filter (·.tells .invalidRegex), engine.config.logger.passes line := by
    intro line member
    rw [log.faults] at member
    rw [Logger.passes, (PatternCache.mem_reportCalls member).1]
    exact warns
  rw [lines, List.filter_comm, List.filter_append, List.filter_cons_of_neg (by rw [first]; decide),
    List.filter_singleton, last, cond_false, List.append_nil, List.filter_eq_self.mpr warned, log.faults]
  rfl

/-- A bad pattern that is asked for at first and again in the end, with as many others in between as fit into a cache,
is reported twice by an engine that drops the oldest entries and once by an engine that drops the newest ones. -/
theorem masked_lines_ne_of_evictions {quiet loud : Engine} (same : loud.rules = quiet.rules)
    (warns : quiet.config.logger.enabled .warn) (warns' : loud.config.logger.enabled .warn) (elapsed elapsed' : Nat)
    {p : Pipeline} {docs : List Document} {bad last : PatternRequest} {others : List PatternRequest}
    (asked : (p.execute quiet.rules docs).requests = bad :: others ++ [last] ++ [bad])
    (distinct : (bad :: others ++ [last]).Nodup) (full : others.length + 1 = capacity)
    (fault : ∃ reason, PatternCache.compiled quiet.rules bad = .error reason) :
    (quiet.execute (Evictions.always PatternCache.keepNewest PatternCache.keepNewest_lawful) elapsed p docs).lines.map
        LogLine.masked ≠
      ((loud.execute (Evictions.always PatternCache.keepOldest PatternCache.keepOldest_lawful) elapsed' p
        docs).lines.map LogLine.masked).filter quiet.config.logger.passes := by
  have again := quiet.faults_of_execute warns (.always PatternCache.keepNewest PatternCache.keepNewest_lawful) elapsed p
    docs
  have once := loud.faults_of_execute warns' (.always PatternCache.keepOldest PatternCache.keepOldest_lawful) elapsed' p
    docs
  generalize quiet.execute _ elapsed p docs = x at again ⊢
  generalize loud.execute _ elapsed' p docs = x' at once ⊢
  have warned : ∀ line ∈ x'.lines.filter (·.tells .invalidRegex), quiet.config.logger.passes line := by
    intro line member
    rw [once] at member
    rw [Logger.passes, (PatternCache.mem_reportCalls member).1]
    exact warns
  have first : bad ∉ others := (List.nodup_cons.mp (List.nodup_append.mp distinct).1).1
  obtain ⟨_, held, newest⟩ :=
    PatternCache.reportCalls_again .everything quiet.rules PatternCache.keepNewest_lawful distinct full
  obtain ⟨_, held', oldest⟩ :=
    PatternCache.reportCalls_again .everything quiet.rules PatternCache.keepOldest_lawful distinct full
  rw [asked, Evictions.always_keep, newest, if_neg (PatternCache.not_mem_keepNewest held full first)] at again
  rw [same, asked, Evictions.always_keep, oldest, if_pos (PatternCache.mem_keepOldest held' full),
    List.append_nil] at once
  intro equal
  have counts := congrArg (fun lines => (lines.filter (·.tells .invalidRegex)).length) equal
  rw [List.filter_map, List.filter_comm, List.filter_map, List.filter_map, List.length_map, List.length_map] at counts
  change (x.lines.filter (·.tells .invalidRegex)).length =
    ((x'.lines.filter (·.tells .invalidRegex)).filter quiet.config.logger.passes).length at counts
  rw [List.filter_eq_self.mpr warned, again, once, List.length_append] at counts
  obtain ⟨reason, refused⟩ := fault
  have reported : faultLines .everything quiet.rules bad ≠ [] := by
    rw [faultLines, refused]
    exact List.cons_ne_nil _ _
  exact reported (List.length_eq_zero_iff.mp (Nat.left_eq_add.mp counts.symm))

theorem logger_eq_everything {engine : Engine} (trace : engine.config.logThreshold = .trace) :
    engine.config.logger = .everything := congrArg Logger.mk trace

/-- Neither the thresholds nor the counters of two engines show in what an execution returns, and neither does what is
evicted. Where one of them has the lowest threshold, the other one logs those of its lines that its own threshold
passes, but for the time that is given in the last one. Only of patterns that do not compile may there be other lines,
and not if these are held alike; they are if the engines evict the same entries, if no entry has to go, or if there are
no such patterns. At the lowest threshold there is a line for the beginning, then for each stage those of its
evaluations and one for its completion, and one for the end. -/
theorem execute_logged (e e' : Engine) (library : e.library = e'.library)
    (limit : e.config.regexSizeLimit = e'.config.regexSizeLimit) (evictions evictions' : Evictions)
    (elapsed elapsed' : Nat) (p : Pipeline) (docs : List Document) :
    let x := e.execute evictions elapsed p docs
    let x' := e'.execute evictions' elapsed' p docs
    let execution := p.execute e'.rules docs
    let passed := (x'.lines.map LogLine.masked).filter e.config.logger.passes
    x.result = x'.result ∧ x'.result = execution.completion ∧
      (∀ line ∈ x.lines, line.event ≠ "PIPELINE_EXECUTE_INCOMPLETE") ∧
      (e'.config.logThreshold = .trace →
        (execution.FaultsHeldAlike e'.rules evictions evictions' → x.lines.map LogLine.masked = passed) ∧
        (x.lines.map LogLine.masked).filter (!·.tells .invalidRegex) = passed.filter (!·.tells .invalidRegex) ∧
        (∃ stages, StagesLog evictions' (.empty e'.rules) 0 0 execution.reports stages ∧
          x'.lines = p.beginLine :: stages ++ [p.completeLine x'.result elapsed']) ∧
        execution.reports.map (fun report => (report.name, report.output)) = p.stages.mapIdx (fun i stage =>
          (stage.name, ((p.upTo i).execute e'.rules docs).returned)) ∧
        (x'.lines.filter (·.tells .evaluationError)).length = x'.result.errors) ∧
      (evictions.keep = evictions'.keep ∨ execution.requests.eraseDups.length ≤ capacity ∨
          (∀ request ∈ execution.requests, ∃ pattern, PatternCache.compiled e'.rules request = .ok pattern) →
        execution.FaultsHeldAlike e'.rules evictions evictions') := by
  intro x x' execution passed
  have same : e.rules = e'.rules := by rw [rules, rules, library, limit]
  have result' : x'.result = execution.completion := e'.execute_result evictions' elapsed' p docs
  have result : x.result = x'.result := by
    rw [result', show x.result = _ from e.execute_result evictions elapsed p docs, same]
  refine ⟨result, result', fun line => event_of_mem_lines, fun trace => ?_, ?_⟩
  · have everything := logger_eq_everything trace
    obtain ⟨stages, log, written⟩ := e'.execute_lines evictions' elapsed' p docs
    have lines : x'.lines = p.beginLine :: stages ++ [p.completeLine x'.result elapsed'] := by
      rw [show x'.lines = _ from written, everything, result']
      exact List.filter_eq_self.mpr fun _ _ => rfl
    refine ⟨fun alike => ?_, ?_, ⟨stages, log, lines⟩, reports_execute e'.rules p docs, ?_⟩
    · have filtered := masked_lines_eq_filter everything same elapsed elapsed' (alike.faultShown fun _ => true) rfl
      rwa [List.filter_true, List.filter_true] at filtered
    · refine masked_lines_eq_filter everything same elapsed elapsed' (PatternCache.heldAlike_of_none ?_) rfl
      exact fun request _ shown => shown (faultLines_filter_eq_nil e'.rules request)
    · have first : p.beginLine.tells .evaluationError = false := rfl
      have last : (p.completeLine x'.result elapsed').tells .evaluationError = false := rfl
      rw [lines, List.filter_append, List.filter_cons_of_neg (by rw [first]; decide), List.filter_singleton, last,
        List.length_append, log.length_errors, result']
      rfl
  · rintro (keep | fits | sound)
    · rw [Execution.FaultsHeldAlike, keep]
      exact PatternCache.heldAlike_self
    · exact PatternCache.heldAlike_of_fits evictions.lawful evictions'.lawful fits
    · refine PatternCache.heldAlike_of_none fun request member => ?_
      rintro ⟨reason, refused⟩
      obtain ⟨pattern, accepted⟩ := sound request member
      rw [accepted] at refused
      contradiction

/-- Two documents and a pattern that does not compile, for an engine that logs warnings and one that logs all. -/
theorem execute_logged_of_bad_pattern :
    let test : Condition := ⟨.pattern .regexContains, [.field ⟨["name"]⟩, .constant (.string "(unclosed")], rfl⟩
    let p : Pipeline := ⟨.database, [.filter test], rfl, by simp [Step.fault?]⟩
    let doc (id : String) : Document :=
      ⟨⟨⟨["shop", id]⟩, by simp [ResourcePath.length]⟩, ⟨0, 0, by decide, by decide, by decide⟩, none,
        [("name", .string "pen")]⟩
    let quiet : Engine := { config := { regexSizeLimit := 10000 }, metrics := some {} }
    let loud : Engine := { config := { logThreshold := .trace, regexSizeLimit := 10000 }, metrics := none }
    let x := quiet.execute (default : Evictions) 5 p [doc "a", doc "b"]
    let x' := loud.execute (default : Evictions) 7 p [doc "a", doc "b"]
    quiet.library = loud.library ∧ quiet.config.regexSizeLimit = loud.config.regexSizeLimit ∧ x.result = x'.result ∧
      (∃ reason, x.lines = [⟨.warn, "INVALID_REGEX", [("pattern", "(unclosed"), ("reason", reason)]⟩]) ∧
      x'.lines.map (·.event) = ["PIPELINE_EXECUTE_BEGIN", "STAGE_COMPLETE", "INVALID_REGEX", "EVALUATION_ERROR",
        "EVALUATION_ERROR", "STAGE_COMPLETE", "PIPELINE_EXECUTE_COMPLETE"] ∧
      x.lines.map LogLine.masked = (x'.lines.map LogLine.masked).filter quiet.config.logger.passes ∧
      (x'.lines.filter (·.tells .evaluationError)).length = x'.result.errors := by
  intro test p doc quiet loud x x'
  obtain ⟨result, _, _, logged, alike⟩ := execute_logged quiet loud rfl rfl default default 5 7 p [doc "a", doc "b"]
  obtain ⟨filtered, _, _, _, count⟩ := logged rfl
  exact ⟨rfl, rfl, result, ⟨Regex.Fault.message .unclosedGroup, by decide +kernel⟩,
    by decide +kernel, filtered (alike (.inl rfl)), count⟩

/-- Two engines that evict different entries and differ in their thresholds. The pattern of the first document is that
of the last one too and does not compile; it is forgotten in between by one of them. -/
theorem execute_log_of_evictions :
    let test : Condition := ⟨.pattern .regexContains, [.constant (.string ""), .field ⟨["pattern"]⟩], rfl⟩
    let p : Pipeline := ⟨.database, [.filter test], rfl, by simp [Step.fault?]⟩
    let doc (pattern : String) (i : Nat) : Document :=
      ⟨⟨⟨["shop", toString i]⟩, by simp [ResourcePath.length]⟩, ⟨0, 0, by decide, by decide, by decide⟩, none,
        [("pattern", .string pattern)]⟩
    let letters (n : Nat) : String := String.ofList (List.replicate n 'a')
    let patterns := "(" :: (List.range capacity).map letters ++ ["("]
    let docs := patterns.zipIdx.map fun (pattern, i) => doc pattern i
    let quiet : Engine := { config := {}, metrics := none }
    let loud : Engine := { config := { logThreshold := .trace }, metrics := none }
    quiet.library = loud.library ∧ quiet.config.regexSizeLimit = loud.config.regexSizeLimit ∧
      (quiet.execute (Evictions.always PatternCache.keepNewest PatternCache.keepNewest_lawful) 5 p docs).lines.map
          LogLine.masked ≠
        ((loud.execute (Evictions.always PatternCache.keepOldest PatternCache.keepOldest_lawful) 7 p docs).lines.map
          LogLine.masked).filter quiet.config.logger.passes := by
  intro test p doc letters patterns docs quiet loud
  let request (text : String) : PatternRequest := ⟨.search, text⟩
  let others := (List.range (capacity - 1)).map (request ∘ letters)
  let last := request (letters (capacity - 1))
  have numbered : (List.range capacity).map (request ∘ letters) = others ++ [last] := by
    rw [show capacity = capacity - 1 + 1 from rfl, List.range_succ, List.map_append]
    rfl
  have asked : (p.execute quiet.rules docs).requests = request "(" :: others ++ [last] ++ [request "("] := by
    have rows : p.source.rows docs = docs.map (·.toRow) := congrArg _ (List.filter_eq_self.mpr fun _ _ => rfl)
    change requestsOf ((filterRows quiet.rules test (p.source.rows docs)).evaluations ++ []) = _
    rw [List.append_nil, requestsOf_filterRows, rows, List.flatMap_map, List.flatMap_map]
    change patterns.zipIdx.flatMap (fun numbered => [(request ∘ Prod.fst) numbered]) = _
    rw [← List.map_eq_flatMap, ← List.map_map, List.zipIdx_map_fst, List.map_append, List.map_cons, List.map_map,
      numbered]
    rfl
  have distinct : (request "(" :: others ++ [last]).Nodup := by
    rw [List.cons_append, ← numbered, List.nodup_cons]
    constructor
    · intro member
      obtain ⟨n, _, same⟩ := List.mem_map.mp member
      have text : List.replicate n 'a' = ['('] := String.ofList_injective (congrArg PatternRequest.text same)
      have letter : '(' ∈ List.replicate n 'a' := by simp [text]
      exact absurd (List.eq_of_mem_replicate letter) (by decide)
    · refine List.Pairwise.map _ (fun n m differ same => differ ?_) List.nodup_range
      have texts : List.replicate n 'a' = List.replicate m 'a' :=
        String.ofList_injective (congrArg PatternRequest.text same)
      simpa using congrArg List.length texts
  have full : others.length + 1 = capacity := by
    rw [List.length_map, List.length_range]
    rfl
  have fault : ∃ reason, PatternCache.compiled (Regex.rules ({} : Config).regexSizeLimit) ⟨.search, "("⟩ =
    .error reason := ⟨_, rfl⟩
  have same : loud.rules = quiet.rules := rfl
  have warns : quiet.config.logger.enabled .warn := rfl
  have warns' : loud.config.logger.enabled .warn := rfl
  refine ⟨rfl, rfl, ?_⟩
  exact masked_lines_ne_of_evictions same warns warns' 5 7 asked distinct full fault

end Engine
end DocQuery
