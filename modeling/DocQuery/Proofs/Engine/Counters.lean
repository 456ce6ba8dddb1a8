import DocQuery.Proofs.Engine.Execute

/-! Counters that engines share. Every call adds the work that it did, and nothing else, so over a session the counters
come to the work of all calls, as far as 64 bits hold it. -/
namespace DocQuery

/-- An amount of what is counted. -/
structure Work where
  executed : Nat := 0
  rejected : Nat := 0
  stages : Nat := 0
  scanned : Nat := 0
  returned : Nat := 0
  errors : Nat := 0

def Work.add (w v : Work) : Work :=
  ⟨w.executed + v.executed, w.rejected + v.rejected, w.stages + v.stages, w.scanned + v.scanned,
    w.returned + v.returned, w.errors + v.errors⟩

namespace Metrics

/-- The counters once some work has been added. -/
def grown (m : Metrics) (w : Work) : Metrics where
  executed := m.executed + .ofNat w.executed
  rejected := m.rejected + .ofNat w.rejected
  stages := m.stages + .ofNat w.stages
  scanned := m.scanned + .ofNat w.scanned
  returned := m.returned + .ofNat w.returned
  errors := m.errors + .ofNat w.errors

theorem grown_none (m : Metrics) : m.grown {} = m := by
  simp [grown]

theorem grown_grown (m : Metrics) (w v : Work) : (m.grown w).grown v = m.grown (w.add v) := by
  simp only [grown, Work.add, UInt64.ofNat_add, UInt64.add_assoc]

theorem grown_zero (w : Work) : ({} : Metrics).grown w =
    ⟨.ofNat w.executed, .ofNat w.rejected, .ofNat w.stages, .ofNat w.scanned, .ofNat w.returned, .ofNat w.errors⟩ := by
  simp [grown]

theorem addStage_eq_grown (m : Metrics) : m.addStage = m.grown { stages := 1 } := by
  simp [addStage, grown]

theorem addCompletion_eq_grown (m : Metrics) (result : Completion) : m.addCompletion result =
    m.grown { executed := 1, scanned := result.scanned, returned := result.returned, errors := result.errors } := by
  simp [addCompletion, addExecuted, addScanned, addReturned, addErrors, grown]

end Metrics

/-! An execution counts each stage that is completed, and at its end the result. -/

def Act.completes : Act → Bool
  | .complete .. => true
  | _ => false

section Execution

variable (choices : PatternCache.Choices) (ctx : StageContext)

theorem StageContext.perform_metrics (act : Act) : (ctx.perform choices act).metrics =
    ctx.metrics.map (·.grown { stages := if act.completes then 1 else 0 }) := by
  have same : ctx.metrics.map (·.grown {}) = ctx.metrics := by simp [Metrics.grown_none]
  cases act with
  | complete stage index output => exact congrArg (ctx.metrics.map ·) (funext Metrics.addStage_eq_grown)
  | ask | record | enter => exact same.symm

theorem StageContext.after_metrics (acts : List Act) : (ctx.after choices acts).metrics =
    ctx.metrics.map (·.grown { stages := acts.countP (·.completes) }) := by
  induction acts generalizing ctx with
  | nil => simp [Metrics.grown_none]
  | cons act acts ih =>
    rw [after_cons, ih, perform_metrics, Option.map_map, List.countP_cons]
    simp only [Function.comp_def, Metrics.grown_grown, Work.add, Nat.add_zero, Nat.add_comm]

theorem Evaluation.countP_completes (e : Evaluation) : e.acts.countP (·.completes) = 0 := by
  rw [acts, List.countP_append, List.countP_map]
  cases e.error <;> simp [Function.comp_def, Act.completes]

theorem StageReport.countP_completes (report : StageReport) (index : Nat) :
    (report.acts index).countP (·.completes) = 1 := by
  have evaluations : (report.evaluations.flatMap (·.acts)).countP (·.completes) = 0 := by
    simp [List.countP_flatMap, Function.comp_def, Evaluation.countP_completes]
  rw [acts, List.countP_append, List.countP_cons_of_neg Bool.false_ne_true, evaluations]
  rfl

theorem countP_completes_stageActs (index : Nat) (reports : List StageReport) :
    (stageActs index reports).countP (·.completes) = reports.length := by
  induction reports generalizing index with
  | nil => rfl
  | cons report reports ih =>
    rw [stageActs_cons, List.countP_append, report.countP_completes, ih, List.length_cons, Nat.add_comm]

theorem Pipeline.countP_completes (rules : RegexRules) (p : Pipeline) (docs : List Document) :
    (p.acts docs rules).countP (·.completes) = p.length := by
  rw [acts, List.countP_cons_of_pos rfl, countP_completes_stageActs]
  exact length_reports_execute rules p docs

/-- An execution adds its stages and what came of it to the counters. -/
theorem Engine.execute_metrics (engine : Engine) (evictions : Evictions) (elapsed : Nat) (p : Pipeline)
    (docs : List Document) :
    let x := engine.execute evictions elapsed p docs
    x.engine.metrics = engine.metrics.map (·.grown
      { executed := 1, stages := p.length, scanned := x.result.scanned, returned := x.result.returned,
        errors := x.result.errors }) := by
  intro x
  have ran : (engine.ranContext evictions p docs).metrics = engine.metrics.map (·.grown { stages := p.length }) := by
    rw [ranContext, StageContext.after_metrics, p.countP_completes]
    rfl
  simp only [x, execute_eq, ran, Option.map_map, Function.comp_def, Metrics.addCompletion_eq_grown,
    Metrics.grown_grown, Work.add, Nat.zero_add, Nat.add_zero]

end Execution

namespace Session

/-- A call of an engine. -/
inductive Call where
  | prepare (engine : Engine) (builder : PipelineBuilder)
  | execute (engine : Engine) (evictions : Evictions) (elapsed : Nat) (p : Pipeline) (docs : List Document)

namespace Call

@[reducible] def Result : Call → Type
  | prepare .. => Except PipelineError Pipeline
  | execute .. => Completion

/-- Makes the call of an engine that shares certain counters. -/
def answer (m : Metrics) : (call : Call) → Answered call.Result
  | prepare engine builder => (engine.withMetrics m).prepare builder
  | execute engine evictions elapsed p docs => (engine.withMetrics m).execute evictions elapsed p docs

end Call

/-- A call and what it returned. -/
structure Served where
  call : Call
  result : call.Result

/-- What a call did. -/
def Served.work : Served → Work
  | ⟨.prepare _ _, .ok _⟩ => {}
  | ⟨.prepare _ _, .error _⟩ => { rejected := 1 }
  | ⟨.execute _ _ _ p docs, result⟩ =>
    { executed := 1, stages := p.length, scanned := docs.length, returned := result.rows.length,
      errors := result.errors }

/-- What calls did all together. -/
def total (served : List Served) : Work :=
  let sum (count : Work → Nat) := (served.map fun s => count s.work).sum
  ⟨sum (·.executed), sum (·.rejected), sum (·.stages), sum (·.scanned), sum (·.returned), sum (·.errors)⟩

theorem total_cons (s : Served) (served : List Served) : total (s :: served) = s.work.add (total served) := rfl

/-- Makes calls one after another, each of an engine that shares the counters as the call before it left them. There is
no outcome should they be lost. -/
def run (m : Metrics) : List Call → Option (List Served × Metrics)
  | [] => some ([], m)
  | call :: calls => do
    let answer := call.answer m
    let (served, last) ← run (← answer.engine.metrics) calls
    return (⟨call, answer.result⟩ :: served, last)

/-- A call counts what it did. -/
theorem answer_metrics (m : Metrics) (call : Call) :
    (call.answer m).engine.metrics = some (m.grown (Served.work ⟨call, (call.answer m).result⟩)) := by
  cases call with
  | prepare engine builder =>
    rw [Call.answer, Engine.prepare]
    cases builder.build with
    | ok p => exact congrArg some m.grown_none.symm
    | error fault =>
      have rejected : m.addRejected = m.grown { rejected := 1 } := by simp [Metrics.addRejected, Metrics.grown]
      exact congrArg some rejected
  | execute engine evictions elapsed p docs =>
    have scanned : (((engine.withMetrics m).execute evictions elapsed p docs).result).scanned = docs.length := by
      rw [Engine.execute_result]
      rfl
    have counted := (engine.withMetrics m).execute_metrics evictions elapsed p docs
    dsimp only at counted
    rw [scanned] at counted
    exact counted

/-- The counters after any calls are those before, and what the calls did. -/
theorem run_eq (m : Metrics) (calls : List Call) :
    ∃ served, served.map (·.call) = calls ∧ run m calls = some (served, m.grown (total served)) := by
  induction calls generalizing m with
  | nil =>
    refine ⟨[], rfl, ?_⟩
    rw [run, show total [] = {} from rfl, m.grown_none]
  | cons call calls ih =>
    obtain ⟨served, same, others⟩ := ih (m.grown (Served.work ⟨call, (call.answer m).result⟩))
    refine ⟨⟨call, (call.answer m).result⟩ :: served, ?_, ?_⟩
    · rw [List.map_cons, same]
    · rw [run, answer_metrics, Option.bind_eq_bind, Option.bind_some, others, Metrics.grown_grown, total_cons]
      rfl

/-- More calls go on with the counters that the calls before them left. -/
theorem run_append {m between : Metrics} {calls : List Call} {served : List Served}
    (before : run m calls = some (served, between)) (later : List Call) :
    run m (calls ++ later) = (run between later).map fun (others, last) => (served ++ others, last) := by
  induction calls generalizing m served with
  | nil =>
    cases before
    exact Option.map_id'.symm
  | cons call calls ih =>
    -- The other calls have an outcome, by which `before` can be taken apart.
    obtain ⟨rest, _, others⟩ := run_eq (m.grown (Served.work ⟨call, (call.answer m).result⟩)) calls
    rw [run, answer_metrics, Option.bind_eq_bind, Option.bind_some, others] at before
    cases before
    rw [List.cons_append, run, answer_metrics, Option.bind_eq_bind, Option.bind_some, ih others]
    cases run _ later <;> rfl

/-- At every point of a session of engines that share counters, which were zero at first, each counter is what the calls
so far have done, modulo 2^64. -/
theorem run_counts (calls later : List Call) :
    ∃ served m, served.map (·.call) = calls ∧ run {} calls = some (served, m) ∧
      run {} (calls ++ later) = (run m later).map (fun (others, last) => (served ++ others, last)) ∧
      m.executed.toNat = (total served).executed % 2 ^ 64 ∧
      m.rejected.toNat = (total served).rejected % 2 ^ 64 ∧
      m.stages.toNat = (total served).stages % 2 ^ 64 ∧
      m.scanned.toNat = (total served).scanned % 2 ^ 64 ∧
      m.returned.toNat = (total served).returned % 2 ^ 64 ∧
      m.errors.toNat = (total served).errors % 2 ^ 64 := by
  obtain ⟨served, same, outcome⟩ := run_eq {} calls
  refine ⟨served, _, same, outcome, run_append outcome later, ?_⟩
  rw [Metrics.grown_zero]
  simp only [UInt64.toNat_ofNat', and_self]

end Session
end DocQuery
