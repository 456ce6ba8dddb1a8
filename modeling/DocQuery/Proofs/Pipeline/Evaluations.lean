import DocQuery.Proofs.Pipeline.Composition
import DocQuery.Proofs.Pipeline.Partition

/-! Which expressions a step evaluates, and how many of them end in an error. A step evaluates row by row, and what it
evaluates on one row does not depend on the others. -/
namespace DocQuery

variable {rules : RegexRules} {row : Row} {rows : List Row}

/-- What the evaluation of an expression leaves besides its outcome. -/
def evaluation (rules : RegexRules) (row : Row) (e : Expr) : Evaluation :=
  ⟨requests rules row e, (evaluate rules row e).error?⟩

theorem each_evaluations (f : α → Observed β) (items : List α) :
    (Observed.each f items).evaluations = items.flatMap fun x => (f x).evaluations := by
  simp [Observed.each, List.flatMap_map]

theorem observe_evaluations (rules : RegexRules) (row : Row) (e : Expr) :
    (observe rules row e).evaluations = [evaluation rules row e] := rfl

theorem each_observe_evaluations (rules : RegexRules) (row : Row) (e : α → Expr) (items : List α) :
    (Observed.each (fun x => observe rules row (e x)) items).evaluations =
      (items.map e).map (evaluation rules row) := by
  rw [each_evaluations, List.map_map, List.map_eq_flatMap]
  rfl

/-- Expressions up to the first that fails on a row, itself included. -/
def untilFailure (rules : RegexRules) (row : Row) : List Expr → List Expr
  | [] => []
  | e :: es => if (evaluate rules row e).isError then [e] else e :: untilFailure rules row es

/-- The expressions that a step evaluates on a row, in order. -/
def Step.evaluated (rules : RegexRules) (row : Row) : Step → List Expr
  | filter condition => [condition.toExpr]
  | sort keys => keys.map (·.expr)
  | .limit _ | offset _ => []
  | addFields fields | select fields => fields.map (·.expr)
  | distinct groups => untilFailure rules row (groups.map (·.expr))
  | aggregate groups accumulators =>
    untilFailure rules row (groups.map (·.expr)) ++
      if belongs rules groups row then accumulators.filterMap (·.args.head?) else []
  | findNearest query => [query.field]

/-- The expressions of a step. -/
def Step.exprs : Step → List Expr
  | filter condition => [condition.toExpr]
  | sort keys => keys.map (·.expr)
  | .limit _ | offset _ => []
  | addFields fields | select fields | distinct fields => fields.map (·.expr)
  | aggregate groups accumulators => groups.map (·.expr) ++ accumulators.flatMap (·.args)
  | findNearest query => [query.field]

theorem untilFailure_subset (rules : RegexRules) (row : Row) (es : List Expr) : untilFailure rules row es ⊆ es := by
  induction es with
  | nil => exact List.Subset.refl []
  | cons e es ih =>
    rw [untilFailure]
    split
    · exact List.cons_subset_cons e (List.nil_subset es)
    · exact List.cons_subset_cons e ih

theorem Step.evaluated_subset (rules : RegexRules) (row : Row) (step : Step) :
    step.evaluated rules row ⊆ step.exprs := by
  cases step with
  | distinct groups => exact untilFailure_subset rules row _
  | aggregate groups accumulators =>
    have arguments : accumulators.filterMap (·.args.head?) ⊆ accumulators.flatMap (·.args) := by
      intro e he
      obtain ⟨a, ha, first⟩ := List.mem_filterMap.mp he
      exact List.mem_flatMap.mpr ⟨a, ha, List.mem_of_head? first⟩
    refine List.append_subset.mpr ⟨?_, ?_⟩
    · exact List.Subset.trans (untilFailure_subset rules row _) (List.subset_append_left _ _)
    · split
      · exact List.Subset.trans arguments (List.subset_append_right _ _)
      · exact List.nil_subset _
  | _ => exact List.Subset.refl _

theorem readGroupKeys_evaluations (rules : RegexRules) (row : Row) (groups : List Assignment) :
    (readGroupKeys rules row groups).evaluations =
      (untilFailure rules row (groups.map (·.expr))).map (evaluation rules row) := by
  induction groups with
  | nil => rfl
  | cons g gs ih =>
    simp only [readGroupKeys, bind, pure, observe_value, observe_evaluations, List.map_cons, untilFailure]
    cases outcome : evaluate rules row g.expr with
    | error e => rfl
    | value | absent => simp [Outcome.isError, ih]

theorem readArgument_evaluations (rules : RegexRules) (row : Row) (a : Accumulator) :
    (readArgument rules row a).evaluations = (a.args.head?.toList).map (evaluation rules row) := by
  unfold readArgument
  cases a.args <;> rfl

theorem readContribution_evaluations (rules : RegexRules) (groups : List Assignment) (accumulators : List Accumulator)
    (row : Row) : (readContribution rules groups accumulators row).evaluations =
      ((Step.aggregate groups accumulators).evaluated rules row).map (evaluation rules row) := by
  have arguments : (accumulators.flatMap fun a => (readArgument rules row a).evaluations) =
      (accumulators.filterMap (·.args.head?)).map (evaluation rules row) := by
    simp only [readArgument_evaluations, List.filterMap_eq_flatMap_toList, List.map_flatMap]
  simp only [readContribution, bind, pure, readGroupKeys_evaluations, readGroupKeys_eq, Step.evaluated, List.map_append]
  cases belongs rules groups row with
  | false => rfl
  | true =>
    simp only [if_true, each_evaluations, arguments, List.append_nil]

theorem readSortKeys_evaluations (rules : RegexRules) (keys : List SortKey) (row : Row) :
    (readSortKeys rules keys row).evaluations = (keys.map (·.expr)).map (evaluation rules row) := by
  simp only [readSortKeys, bind, pure, each_observe_evaluations, List.append_nil]

theorem readWrites_evaluations (rules : RegexRules) (assignments : List Assignment) (row : Row) :
    (readWrites rules assignments row).evaluations = (assignments.map (·.expr)).map (evaluation rules row) := by
  simp only [readWrites, bind, pure, each_observe_evaluations, List.append_nil]

theorem Step.run_evaluations (rules : RegexRules) (rows : List Row) (step : Step) :
    (step.run rules rows).evaluations =
      rows.flatMap fun row => (step.evaluated rules row).map (evaluation rules row) := by
  cases step with
  | limit | offset => simp [run, evaluated, pure]
  | filter => simp [run, evaluated, filterRows, bind, pure, each_evaluations, observe_evaluations]
  | findNearest => simp [run, evaluated, nearestRows, bind, pure, each_evaluations, observe_evaluations]
  | sort =>
    simp only [run, evaluated, sortRows, bind, pure, each_evaluations, readSortKeys_evaluations, List.append_nil]
  | addFields =>
    simp only [run, evaluated, DocQuery.addFields, bind, pure, each_evaluations, readWrites_evaluations,
      List.append_nil]
  | select =>
    simp only [run, evaluated, selectFields, bind, pure, each_evaluations, readWrites_evaluations, List.append_nil]
  | distinct =>
    simp only [run, evaluated, distinctRows, bind, pure, each_evaluations, readGroupKeys_evaluations, List.append_nil]
  | aggregate =>
    simp only [run, aggregateRows, bind, pure, each_evaluations, readContribution_evaluations, List.append_nil]

/-- How many of the expressions that a step evaluates on a row fail. -/
def Step.failures (rules : RegexRules) (step : Step) (row : Row) : Nat :=
  (step.evaluated rules row).countP fun e => (evaluate rules row e).isError

section Congruence

variable {a b : Row}

theorem untilFailure_congr {es : List Expr}
    (same : ∀ e ∈ es, (evaluate rules a e).isError = (evaluate rules b e).isError) :
    untilFailure rules a es = untilFailure rules b es := by
  induction es with
  | nil => rfl
  | cons e es ih =>
    rw [List.forall_mem_cons] at same
    rw [untilFailure, untilFailure, same.1, ih same.2]

/-- What a step evaluates, and what of it fails, depends on which of its expressions fail. -/
theorem Step.evaluated_congr {step : Step}
    (same : ∀ e ∈ step.exprs, (evaluate rules a e).isError = (evaluate rules b e).isError) :
    step.evaluated rules a = step.evaluated rules b := by
  cases step with
  | distinct groups => exact untilFailure_congr same
  | aggregate groups accumulators =>
    have keys := (List.forall_mem_append.mp same).1
    have members : belongs rules groups a = belongs rules groups b := by
      rw [Bool.eq_iff_iff, belongs, belongs, List.all_eq_true, List.all_eq_true]
      exact forall₂_congr fun g hg => by rw [keys g.expr (List.mem_map_of_mem hg)]
    rw [evaluated, evaluated, untilFailure_congr keys, members]
  | _ => rfl

theorem Step.failures_congr {step : Step}
    (same : ∀ e ∈ step.exprs, (evaluate rules a e).isError = (evaluate rules b e).isError) :
    step.failures rules a = step.failures rules b := by
  rw [failures, failures, ← evaluated_congr same]
  exact List.countP_congr fun e he => by rw [same e (step.evaluated_subset rules a he)]

end Congruence

theorem Outcome.isSome_error? (o : Outcome) : o.error?.isSome = o.isError := by
  cases o <;> rfl

theorem Step.errorCount_run (rules : RegexRules) (rows : List Row) (step : Step) :
    errorCount (step.run rules rows).evaluations = (rows.map (step.failures rules)).sum := by
  rw [run_evaluations, errorCount, List.countP_flatMap]
  refine congrArg List.sum (List.map_congr_left fun row _ => ?_)
  simp only [Function.comp_apply, List.countP_map, failures, evaluation, Function.comp_def, Outcome.isSome_error?]

/-- How many evaluations of a run ended in an error. -/
def Passage.errors (passage : Passage) : Nat := errorCount (passage.reports.flatMap (·.evaluations))

theorem errors_runSteps_cons (rules : RegexRules) (rows : List Row) (step : Step) (steps : List Step) :
    (runSteps rules rows (step :: steps)).errors =
      (rows.map (step.failures rules)).sum + (runSteps rules (step.run rules rows).value steps).errors := by
  rw [← step.errorCount_run]
  exact List.countP_append

theorem errors_runSteps_append (rules : RegexRules) (rows : List Row) (ss ts : List Step) :
    (runSteps rules rows (ss ++ ts)).errors =
      (runSteps rules rows ss).errors + (runSteps rules (runSteps rules rows ss).rows ts).errors := by
  simp only [Passage.errors, runSteps_append, List.flatMap_append, errorCount, List.countP_append]

theorem errors_execute (rules : RegexRules) (p : Pipeline) (docs : List Document) :
    (p.execute rules docs).errors = (runSteps rules (p.source.rows docs) p.steps).errors := rfl

end DocQuery
