import Mathlib.Data.List.ProdSigma
import DocQuery.Proofs.Pipeline.Evaluations

/-! How many errors a stage adds to the count. Every expression is evaluated as often as the stage needs it: filters,
searches, sorts and projections evaluate theirs once on each row, and groups stop at the first key that fails. -/
namespace DocQuery

variable {rules : RegexRules}

/-- The failing evaluations of a step, counted over rows or over pairs of a row and one of its entries. A row fails
once in groups, and totals are taken of the rows that do not. -/
def Step.faults (rules : RegexRules) (rows : List Row) : Step → Nat
  | filter condition => rows.countP fun row => (evaluate rules row condition.toExpr).isError
  | sort keys => (rows ×ˢ keys).countP fun (row, key) => (evaluate rules row key.expr).isError
  | .limit _ | offset _ => 0
  | addFields fields | select fields => (rows ×ˢ fields).countP fun (row, a) => (evaluate rules row a.expr).isError
  | distinct groups => rows.countP fun row => groups.any fun g => (evaluate rules row g.expr).isError
  | aggregate groups accumulators =>
    (rows.countP fun row => groups.any fun g => (evaluate rules row g.expr).isError) +
      ((rows.filter (belongs rules groups)) ×ˢ accumulators).countP fun (row, a) =>
        a.args.head?.any fun arg => (evaluate rules row arg).isError
  | findNearest query => rows.countP fun row => (evaluate rules row query.field).isError

/-- Evaluations that stop at a failure have one at most. -/
theorem countP_untilFailure (rules : RegexRules) (row : Row) (es : List Expr) :
    (untilFailure rules row es).countP (fun e => (evaluate rules row e).isError) =
      if es.any fun e => (evaluate rules row e).isError then 1 else 0 := by
  induction es with
  | nil => rfl
  | cons e es ih =>
    rw [untilFailure]
    cases fails : (evaluate rules row e).isError <;> simp [fails, ih]

theorem countP_product_cons (p : α × β → Bool) (a : α) (as : List α) (bs : List β) :
    ((a :: as) ×ˢ bs).countP p = (bs.countP fun b => p (a, b)) + (as ×ˢ bs).countP p := by
  rw [List.product_cons, List.countP_append, List.countP_map]
  rfl

theorem countP_untilFailure_groups (rules : RegexRules) (row : Row) (groups : List Assignment) :
    (untilFailure rules row (groups.map (·.expr))).countP (fun e => (evaluate rules row e).isError) =
      if groups.any fun g => (evaluate rules row g.expr).isError then 1 else 0 := by
  rw [countP_untilFailure, List.any_map]
  rfl

theorem countP_arguments (p : Expr → Bool) (accumulators : List Accumulator) :
    (accumulators.filterMap (·.args.head?)).countP p = accumulators.countP fun a => a.args.head?.any p := by
  rw [List.countP_filterMap]
  refine List.countP_congr fun a _ => ?_
  cases a.args <;> rfl

/-- A row adds its own failures to those of the others. -/
theorem Step.faults_cons (rules : RegexRules) (row : Row) (rows : List Row) (step : Step) :
    step.faults rules (row :: rows) = step.failures rules row + step.faults rules rows := by
  cases step with
  | limit | offset => rfl
  | filter | findNearest => simp [faults, failures, evaluated, List.countP_cons, Nat.add_comm]
  | sort | addFields | select =>
    rw [faults, countP_product_cons, failures, evaluated, List.countP_map]
    rfl
  | distinct groups =>
    rw [faults, List.countP_cons, failures, evaluated, countP_untilFailure_groups, Nat.add_comm]
    rfl
  | aggregate groups accumulators =>
    rw [faults, List.countP_cons, List.filter_cons, failures, evaluated, List.countP_append,
      countP_untilFailure_groups, faults]
    -- a row with a key that fails adds one and reaches no total, any other adds the arguments that fail on it
    cases member : belongs rules groups row with
    | false => simp only [Bool.false_eq_true, if_false, List.countP_nil]; omega
    | true =>
      simp only [if_true, countP_product_cons, countP_arguments]
      omega

theorem Step.errorCount_run_eq_faults (rules : RegexRules) (rows : List Row) (step : Step) :
    errorCount (step.run rules rows).evaluations = step.faults rules rows := by
  rw [errorCount_run]
  induction rows with
  | nil => cases step <;> rfl
  | cons row rows ih => rw [List.map_cons, List.sum_cons, ih, faults_cons]

/-- A step that shares its evaluator with others adds its own failures to the count, and theirs make no difference. -/
theorem errors_runStep (evictions : Evictions) (rows : List Row) (step : Step) {ctx : StageContext}
    (sound : PatternCache.Sound rules ctx.cache) :
    let done := InContext.runStep evictions rows step ctx
    done.1 = (step.run rules rows).value ∧ done.2.errors = ctx.errors + step.faults rules rows := by
  rw [runStep_refines evictions rules rows step ctx sound, ← step.errorCount_run_eq_faults]
  exact ⟨rfl, ctx.errors_after evictions _⟩

theorem errors_runSteps (rules : RegexRules) (rows : List Row) (steps : List Step) :
    (runSteps rules rows steps).errors = (steps.mapIdx fun i step => step.faults rules (runSteps rules rows (steps.take i)).rows).sum := by
  induction steps generalizing rows with
  | nil => rfl
  | cons step steps ih =>
    rw [errors_runSteps_cons, ← step.errorCount_run, step.errorCount_run_eq_faults, ih, List.mapIdx_cons,
      List.sum_cons]
    rfl

/-- Each key of a sort is evaluated once on each row. -/
theorem evaluations_sort (rules : RegexRules) (rows : List Row) (keys : List SortKey) :
    ((Step.sort keys).run rules rows).evaluations =
      (rows ×ˢ keys).map fun (row, key) => evaluation rules row key.expr := by
  rw [Step.run_evaluations]
  induction rows with
  | nil => rfl
  | cons row rows ih =>
    rw [List.flatMap_cons, ih, List.product_cons, List.map_append, List.map_map, Step.evaluated, List.map_map]
    rfl

namespace Pipeline

/-- Each stage adds its failing evaluations to the count, whatever others have left in the cache, and the count of a
result is their sum over the stages. A sort evaluates each of its keys once on each row, and distinct rows stand for
all rows but those with a key that fails. -/
theorem errors_counted (evictions : Evictions) (rules : RegexRules) :
    (∀ (step : Step) (rows : List Row) (ctx : StageContext), PatternCache.Sound rules ctx.cache →
      let done := InContext.runStep evictions rows step ctx
      done.1 = (step.run rules rows).value ∧ done.2.errors = ctx.errors + step.faults rules rows) ∧
    (∀ (keys : List SortKey) (rows : List Row), ((Step.sort keys).run rules rows).evaluations =
      (rows ×ˢ keys).map fun (row, key) => evaluation rules row key.expr) ∧
    (∀ (groups : List Assignment) (rows : List Row),
      let cells := groupCells rules groups rows
      ((Step.distinct groups).run rules rows).value = cells.map (distinctRow rules groups) ∧
        (cells.flatMap Cell.members).Perm
          (rows.filter fun row => !groups.any fun g => (evaluate rules row g.expr).isError)) ∧
    ∀ (p : Pipeline) (docs : List Document), (p.complete evictions rules docs).errors =
      (p.steps.mapIdx fun i step => step.faults rules ((p.upTo i).execute rules docs).rows).sum := by
  refine ⟨?_, ?_, ?_, ?_⟩
  · intro step rows ctx sound
    exact errors_runStep evictions rows step sound
  · intro keys rows
    exact evaluations_sort rules rows keys
  · intro groups rows cells
    refine ⟨distinctRows_eq rules groups rows, ?_⟩
    simp only [any_isError_eq_not_belongs, Bool.not_not]
    exact cells_perm _ _
  · intro p docs
    rw [complete_eq_execute]
    exact errors_runSteps rules (p.source.rows docs) p.steps

/-- One row fails as a member of a group, another one in one of the totals. -/
theorem errors_counted_in_groups :
    let next (name : String) : Expr := .call (.arithmetic .add) [.field ⟨[name]⟩, .constant (.integer 1)]
    let step : Step := .aggregate [⟨⟨["group"]⟩, next "key"⟩]
      [⟨⟨["sum"]⟩, .sum, [next "price"]⟩, ⟨⟨["rows"]⟩, .count, []⟩]
    let rows : List Row := [.ofFields [("key", .string "a"), ("price", .string "none")],
      .ofFields [("key", .integer 1), ("price", .string "none")], .ofFields [("key", .integer 1), ("price", .integer 5)]]
    let ctx : StageContext := { StageContext.fresh 100 with errors := 7 }
    PatternCache.Sound 100 ctx.cache ∧ step.faults 100 rows = 2 ∧
      (InContext.runStep (default : Evictions) rows step ctx).2.errors = ctx.errors + 2 := by
  intro next step rows ctx
  have sound : PatternCache.Sound 100 ctx.cache := PatternCache.sound_empty 100
  have faults : step.faults 100 rows = 2 := by decide +kernel
  have counted := (errors_counted default 100).1 step rows ctx sound
  rw [faults] at counted
  exact ⟨sound, faults, counted.2⟩

end Pipeline
end DocQuery
