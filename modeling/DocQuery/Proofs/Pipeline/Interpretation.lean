import DocQuery.Pipeline.Interpreted

/-! Stages in any monad that can evaluate expressions. Where its evaluations stand for the usual ones, what its stages
do stands for what stages do. -/
namespace DocQuery

/-- The rows of a passage, with whether one of its steps has cut them short. -/
def Passage.observed (passage : Passage) : Observed (List Row × Bool) :=
  ⟨(passage.rows, passage.limited), passage.reports.flatMap (·.evaluations)⟩

/-- How computations of a monad stand for observed ones, which goes through results and sequences. -/
structure Interpretation (m : Type → Type) [Monad m] [LawfulMonad m] where
  Stands {α : Type} : m α → Observed α → Prop
  result {α : Type} (a : α) : Stands (pure a) (pure a)
  sequence {α β : Type} {x : m α} {o : Observed α} {f : α → m β} {g : α → Observed β} :
    Stands x o → Stands (f o.value) (g o.value) → Stands (x >>= f) (o >>= g)

theorem each_cons {α β : Type} (g : α → Observed β) (item : α) (items : List α) :
    Observed.each g (item :: items) = (do return (← g item) :: (← Observed.each g items)) := by
  simp [Observed.each, bind, pure]

theorem observed_runSteps_cons (rows : List Row) (step : Step) (steps : List Step) :
    (runSteps rules rows (step :: steps)).observed = (do
      let done ← step.run rules rows
      let (last, limited) ← (runSteps rules done steps).observed
      return (last, step.isLimiting && decide (done.length < rows.length) || limited)) := by
  simp [Passage.observed, runSteps, bind, pure]

namespace Interpretation

variable {m : Type → Type} [Monad m] [LawfulMonad m] (i : Interpretation m)

theorem each_stands {α β : Type} {f : α → m β} {g : α → Observed β} (items : List α)
    (member : ∀ item, i.Stands (f item) (g item)) : i.Stands (items.mapM f) (Observed.each g items) := by
  induction items with
  | nil => exact i.result []
  | cons item items ih =>
    rw [List.mapM_cons, each_cons]
    exact i.sequence (member item) (i.sequence ih (i.result _))

variable {eval : Row → Expr → m Outcome} {rules : RegexRules}
  (evaluations : ∀ row e, i.Stands (eval row e) (observe rules row e))

include evaluations

theorem filterRows_stands (condition : Condition) (rows : List Row) :
    i.Stands (Interpreted.filterRows eval condition rows) (filterRows rules condition rows) :=
  i.sequence (i.each_stands rows fun row => evaluations row condition.toExpr) (i.result _)

theorem sortRows_stands (keys : List SortKey) (rows : List Row) :
    i.Stands (Interpreted.sortRows eval keys rows) (sortRows rules keys rows) := by
  have keyed (row : Row) : i.Stands (Interpreted.readSortKeys eval keys row) (readSortKeys rules keys row) :=
    i.sequence (i.each_stands keys fun key => evaluations row key.expr) (i.result _)
  exact i.sequence (i.each_stands rows keyed) (i.result _)

theorem assign_stands (assignments : List Assignment) (start : Fields) (row : Row) :
    i.Stands (Interpreted.assign eval assignments start row)
      (do return row.withFields (writeFields start (← readWrites rules assignments row))) := by
  have writes : i.Stands (Interpreted.readWrites eval assignments row) (readWrites rules assignments row) :=
    i.sequence (i.each_stands assignments fun a => evaluations row a.expr) (i.result _)
  exact i.sequence writes (i.result _)

theorem readGroupKeys_stands (row : Row) (groups : List Assignment) :
    i.Stands (Interpreted.readGroupKeys eval row groups) (readGroupKeys rules row groups) := by
  induction groups with
  | nil => exact i.result _
  | cons group groups ih =>
    refine i.sequence (evaluations row group.expr) ?_
    cases (observe rules row group.expr).value with
    | error e => exact i.result _
    | value | absent => exact i.sequence ih (i.result _)

theorem distinctRows_stands (groups : List Assignment) (rows : List Row) :
    i.Stands (Interpreted.distinctRows eval groups rows) (distinctRows rules groups rows) :=
  i.sequence (i.each_stands rows fun row => i.readGroupKeys_stands evaluations row groups) (i.result _)

theorem readArgument_stands (row : Row) (a : Accumulator) :
    i.Stands (Interpreted.readArgument eval row a) (readArgument rules row a) := by
  unfold Interpreted.readArgument readArgument
  cases a.args with
  | nil => exact i.result _
  | cons arg _ => exact i.sequence (evaluations row arg) (i.result _)

theorem readContribution_stands (groups : List Assignment) (accumulators : List Accumulator) (row : Row) :
    i.Stands (Interpreted.readContribution eval groups accumulators row)
      (readContribution rules groups accumulators row) := by
  refine i.sequence (i.readGroupKeys_stands evaluations row groups) ?_
  cases (readGroupKeys rules row groups).value with
  | none => exact i.result _
  | some keys => exact i.sequence (i.each_stands accumulators (i.readArgument_stands evaluations row)) (i.result _)

theorem aggregateRows_stands (groups : List Assignment) (accumulators : List Accumulator) (rows : List Row) :
    i.Stands (Interpreted.aggregateRows eval groups accumulators rows)
      (aggregateRows rules groups accumulators rows) :=
  i.sequence (i.each_stands rows (i.readContribution_stands evaluations groups accumulators)) (i.result _)

theorem nearestRows_stands (query : NearestQuery) (rows : List Row) :
    i.Stands (Interpreted.nearestRows eval query rows) (nearestRows rules query rows) :=
  i.sequence (i.each_stands rows fun row => evaluations row query.field) (i.result _)

theorem runStep_stands (rows : List Row) (step : Step) :
    i.Stands (Interpreted.runStep eval rows step) (step.run rules rows) := by
  cases step with
  | filter condition => exact i.filterRows_stands evaluations condition rows
  | sort keys => exact i.sortRows_stands evaluations keys rows
  | limit n => exact i.result _
  | offset n => exact i.result _
  | addFields fields => exact i.each_stands rows fun row => i.assign_stands evaluations fields row.fields row
  | select fields => exact i.each_stands rows fun row => i.assign_stands evaluations fields [] row
  | distinct groups => exact i.distinctRows_stands evaluations groups rows
  | aggregate groups accumulators => exact i.aggregateRows_stands evaluations groups accumulators rows
  | findNearest query => exact i.nearestRows_stands evaluations query rows

theorem runStages_stands (index : Nat) (rows : List Row) (steps : List Step) :
    i.Stands (Interpreted.runStages (fun _ => Interpreted.runStep eval) index rows steps)
      (runSteps rules rows steps).observed := by
  induction steps generalizing index rows with
  | nil => exact i.result _
  | cons step steps ih =>
    rw [observed_runSteps_cons]
    exact i.sequence (i.runStep_stands evaluations rows step) (i.sequence (ih _ _) (i.result _))

/-- Steps in the monad stand for steps. -/
theorem runSteps_stands (rows : List Row) (steps : List Step) :
    i.Stands (Interpreted.runSteps eval rows steps) (runSteps rules rows steps).observed :=
  i.runStages_stands evaluations 1 rows steps

end Interpretation
end DocQuery
