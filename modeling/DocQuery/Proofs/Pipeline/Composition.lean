import DocQuery.Proofs.Pipeline.Context

/-! Executing a pipeline in one go or in two. What the evaluations of the first run leave in the cache never shows in
the second one. -/
namespace DocQuery

/-- The rows of two lists of steps are those of the second over those of the first, and each step reports the same. -/
theorem runSteps_append (rules : RegexRules) (rows : List Row) (ss ts : List Step) :
    runSteps rules rows (ss ++ ts) =
      let first := runSteps rules rows ss
      let second := runSteps rules first.rows ts
      ⟨second.rows, first.limited || second.limited, first.reports ++ second.reports⟩ := by
  induction ss generalizing rows with
  | nil => rfl
  | cons step ss ih => simp only [List.cons_append, runSteps, ih, Bool.or_assoc]

/-- Runs steps over a number of scanned documents and some rows, with a new evaluator and no errors yet. -/
def completeSteps (evictions : Evictions) (rules : RegexRules) (scanned : Nat) (rows : List Row) (steps : List Step) :
    Completion :=
  let ((last, limited), ctx) := (Interpreted.runStages (runStage evictions) 1 rows steps).run (.fresh rules)
  ⟨last, scanned, limited, ctx.errors⟩

theorem countP_stageActs (index : Nat) (reports : List StageReport) :
    (stageActs index reports).countP (·.fails) = errorCount (reports.flatMap (·.evaluations)) := by
  induction reports generalizing index with
  | nil => rfl
  | cons report reports ih =>
    have own : (report.acts index).countP (·.fails) = errorCount report.evaluations := by
      rw [StageReport.acts, List.countP_append, List.countP_cons_of_neg Bool.false_ne_true, countP_flatMap_acts]
      rfl
    rw [stageActs_cons, List.countP_append, own, ih, List.flatMap_cons, errorCount, errorCount, errorCount,
      List.countP_append]

theorem completeSteps_eq (evictions : Evictions) (rules : RegexRules) (scanned : Nat) (rows : List Row)
    (steps : List Step) : completeSteps evictions rules scanned rows steps =
      let passage := runSteps rules rows steps
      ⟨passage.rows, scanned, passage.limited, errorCount (passage.reports.flatMap (·.evaluations))⟩ := by
  have run := runStages_yields evictions rules 1 rows steps (.fresh rules) (PatternCache.sound_empty rules)
  rw [completeSteps, StateT.run, run]
  simp only [StageContext.after_errors, countP_stageActs, StageContext.fresh, Nat.zero_add]

/-- However the evictions of the parts are chosen, two runs do what one does. -/
theorem completeSteps_append (evictions first second : Evictions) (rules : RegexRules) (scanned n : Nat)
    (rows : List Row) (ss ts : List Step) :
    let front := completeSteps first rules scanned rows ss
    let back := completeSteps second rules n front.rows ts
    completeSteps evictions rules scanned rows (ss ++ ts) =
      ⟨back.rows, scanned, front.limitApplied || back.limitApplied, front.errors + back.errors⟩ := by
  simp only [completeSteps_eq, runSteps_append, List.flatMap_append, errorCount, List.countP_append]

namespace Pipeline

/-- Executes a pipeline with one evaluator for all of its stages. -/
def complete (evictions : Evictions) (rules : RegexRules) (p : Pipeline) (docs : List Document) : Completion :=
  completeSteps evictions rules docs.length (p.source.rows docs) p.steps

/-- The pipeline up to one of its stages, the source being stage zero. -/
def upTo (p : Pipeline) (k : Nat) : Pipeline where
  source := p.source
  steps := p.steps.take k
  source_sound := p.source_sound
  steps_sound step member := p.steps_sound step (List.mem_of_mem_take member)

variable (rules : RegexRules) (p : Pipeline) (docs : List Document) (k : Nat)

/-- What stages share makes no difference to an execution. -/
theorem complete_eq_execute (evictions : Evictions) : p.complete evictions rules docs =
    let execution := p.execute rules docs
    ⟨execution.rows, execution.scanned, execution.limitApplied, execution.errors⟩ := by
  rw [complete, completeSteps_eq]
  rfl

/-- Executing a pipeline is executing it up to a stage and, with a new evaluator, the other stages over the rows of
that one. Errors add up, and a limit of either part counts. -/
theorem complete_in_two (evictions first second : Evictions) :
    let whole := p.complete evictions rules docs
    let front := (p.upTo k).complete first rules docs
    let back := completeSteps second rules front.rows.length front.rows (p.steps.drop k)
    let execution := p.execute rules docs
    whole.rows = back.rows ∧ whole.errors = front.errors + back.errors ∧
      whole.limitApplied = (front.limitApplied || back.limitApplied) ∧ whole.scanned = docs.length ∧
      whole = ⟨execution.rows, execution.scanned, execution.limitApplied, execution.errors⟩ := by
  intro whole front back execution
  have parts : whole = ⟨back.rows, docs.length, front.limitApplied || back.limitApplied,
      front.errors + back.errors⟩ := by
    have cut := completeSteps_append evictions first second rules docs.length front.rows.length
      (p.source.rows docs) (p.steps.take k) (p.steps.drop k)
    rwa [List.take_append_drop] at cut
  refine ⟨?_, ?_, ?_, ?_, complete_eq_execute rules p docs evictions⟩ <;> rw [parts]

end Pipeline

/-! What an execution reports of its stages. -/

section Reports

variable (rules : RegexRules) (rows : List Row)

theorem reports_runSteps (steps : List Step) :
    (runSteps rules rows steps).reports.map (fun report => (report.name, report.output)) =
      (steps.map Stage.step).mapIdx fun i stage =>
        (stage.name, (runSteps rules rows (steps.take (i + 1))).rows.length) := by
  induction steps generalizing rows with
  | nil => rfl
  | cons step steps ih =>
    rw [runSteps, List.map_cons, ih, List.map_cons, List.mapIdx_cons]
    rfl

/-- Each stage is reported by its name, with the number of rows of the pipeline up to it. -/
theorem reports_execute (p : Pipeline) (docs : List Document) :
    (p.execute rules docs).reports.map (fun report => (report.name, report.output)) =
      p.stages.mapIdx fun i stage => (stage.name, ((p.upTo i).execute rules docs).returned) := by
  rw [Pipeline.stages, List.mapIdx_cons, Pipeline.execute, List.map_cons, reports_runSteps]
  rfl

theorem length_reports_execute (p : Pipeline) (docs : List Document) :
    (p.execute rules docs).reports.length = p.length := by
  have lengths := congrArg List.length (reports_execute rules p docs)
  rwa [List.length_map, List.length_mapIdx] at lengths

end Reports

end DocQuery
