import DocQuery.Engine
import DocQuery.Proofs.Eval.Context
import DocQuery.Proofs.Pipeline.Interpretation

/-! Stages that share one evaluator. Each makes of its rows what it makes of them on its own, and leaves behind what
its evaluations are said to leave. -/
namespace DocQuery

open PatternCache (Choices)

namespace InContext

def runStep (choices : Choices) (rows : List Row) (step : Step) : InContext (List Row) :=
  Interpreted.runStep (observeIn choices) rows step

/-- Runs steps one after another, and tells whether one of them has cut its rows short. -/
def runSteps (choices : Choices) (rows : List Row) (steps : List Step) : InContext (List Row × Bool) :=
  Interpreted.runSteps (observeIn choices) rows steps

end InContext

variable {α β : Type}

/-- A computation in a context does what an observed one does, and its evaluations are those that are observed. -/
def Refines (evictions : Evictions) (rules : RegexRules) (x : InContext α) (o : Observed α) : Prop :=
  Yields evictions rules x o.value (o.evaluations.flatMap (·.acts))

section Refinement

variable {evictions : Evictions} {rules : RegexRules}

theorem refines_pure (a : α) : Refines evictions rules (pure a) (pure a) := yields_pure a

theorem Refines.bind {x : InContext α} {o : Observed α} {f : α → InContext β} {g : α → Observed β}
    (first : Refines evictions rules x o) (next : Refines evictions rules (f o.value) (g o.value)) :
    Refines evictions rules (x >>= f) (o >>= g) := by
  have both := Yields.bind first next
  rwa [← List.flatMap_append] at both

theorem observeIn_refines (row : Row) (e : Expr) :
    Refines evictions rules (observeIn evictions row e) (observe rules row e) := by
  have observed := observeIn_yields evictions rules row e
  rwa [← List.flatMap_singleton (f := Evaluation.acts)] at observed

def InContext.interpretation (evictions : Evictions) (rules : RegexRules) : Interpretation InContext where
  Stands := Refines evictions rules
  result := refines_pure
  sequence := Refines.bind

theorem runStep_refines (evictions : Evictions) (rules : RegexRules) (rows : List Row) (step : Step) :
    Refines evictions rules (InContext.runStep evictions rows step) (step.run rules rows) :=
  (InContext.interpretation evictions rules).runStep_stands observeIn_refines rows step

/-- Steps that share one evaluator make of rows what they make of them on their own. -/
theorem runSteps_refines (evictions : Evictions) (rules : RegexRules) (rows : List Row) (steps : List Step) :
    Refines evictions rules (InContext.runSteps evictions rows steps) (runSteps rules rows steps).observed :=
  (InContext.interpretation evictions rules).runSteps_stands observeIn_refines rows steps

end Refinement

/-! Numbered stages. -/

section Stages

/-- A stage is entered, evaluates and is completed. -/
def StageReport.acts (report : StageReport) (index : Nat) : List Act :=
  .enter report.name :: report.evaluations.flatMap (·.acts) ++ [.complete report.name index report.output]

/-- What numbered stages do, the first of which has a certain index. -/
def stageActs (index : Nat) (reports : List StageReport) : List Act :=
  (reports.zipIdx index).flatMap fun (report, i) => report.acts i

theorem stageActs_cons (index : Nat) (report : StageReport) (reports : List StageReport) :
    stageActs index (report :: reports) = report.acts index ++ stageActs (index + 1) reports := rfl

variable {evictions : Evictions} {rules : RegexRules}

theorem runStage_yields (evictions : Evictions) (rules : RegexRules) (index : Nat) (rows : List Row) (step : Step) :
    let done := step.run rules rows
    Yields evictions rules (runStage evictions index rows step) done.value
      (StageReport.acts ⟨step.name, done.value.length, done.evaluations⟩ index) := by
  intro done
  have entered : Yields evictions rules (modify (·.enter step.name)) PUnit.unit [.enter step.name] := fun _ _ => rfl
  have completed : Yields evictions rules (do
      modify (·.complete step.name index done.value.length)
      return done.value) done.value [.complete step.name index done.value.length] := fun _ _ => rfl
  exact entered.bind (Yields.bind (runStep_refines evictions rules rows step) completed)

/-- Numbered stages make of rows what steps make of them, and each of them is entered and completed. -/
theorem runStages_yields (evictions : Evictions) (rules : RegexRules) (index : Nat) (rows : List Row)
    (steps : List Step) :
    let passage := runSteps rules rows steps
    Yields evictions rules (Interpreted.runStages (runStage evictions) index rows steps)
      (passage.rows, passage.limited) (stageActs index passage.reports) := by
  induction steps generalizing index rows with
  | nil => exact yields_pure _
  | cons step steps ih =>
    have later := (ih (index + 1) (step.run rules rows).value).bind_pure fun rest =>
      (rest.1, step.isLimiting && decide ((step.run rules rows).value.length < rows.length) || rest.2)
    exact (runStage_yields evictions rules index rows step).bind later

end Stages
end DocQuery
