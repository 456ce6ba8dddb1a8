import DocQuery.Proofs.Eval.Conditions
import DocQuery.Proofs.Pipeline.Counting

/-! Conditions, however they are made, and the filters that they are made for. A condition comes to a truth value or an
error on every row, so that a filter has nothing else to deal with. -/
namespace DocQuery

theorem evaluate_predicate {e : Expr} {f : Builtin} {args : List Expr} (call : e.application? = some (f, args))
    (predicate : f.isPredicate = true) (rules : RegexRules) (row : Row) : (evaluate rules row e).Decided := by
  rw [evaluate_application call]
  exact Builtin.apply_decided predicate rules _

theorem Condition.decided (c : Condition) (rules : RegexRules) (row : Row) : (c.evaluate rules row).Decided :=
  evaluate_predicate rfl c.boolean rules row

theorem Outcome.Decided.one_of_three {o : Outcome} (decided : o.Decided) :
    1 = (if o.isTrue then 1 else 0) + (if o.isError then 1 else 0) + if truthIs false o then 1 else 0 := by
  cases decided with
  | boolean b => cases b <;> rfl
  | error e => rfl

/-- A row is kept, or it fails, or its condition is false. -/
theorem length_eq_kept_add (rules : RegexRules) (c : Condition) (rows : List Row) :
    let filtered := (Step.filter c).run rules rows
    rows.length = filtered.value.length + errorCount filtered.evaluations +
      rows.countP fun row => truthIs false (c.evaluate rules row) := by
  intro filtered
  rw [length_run_filter, Step.errorCount_run_eq_faults, Step.faults]
  induction rows with
  | nil => rfl
  | cons row rows ih =>
    have one := (c.decided rules row).one_of_three
    rw [Condition.evaluate] at one
    simp only [Condition.evaluate] at ih ⊢
    rw [List.length_cons, List.countP_cons, List.countP_cons, List.countP_cons]
    omega

/-- The functions that are known to be boolean are those of which nothing comes but truth values and errors, and their
calls are what conditions are made of. So a filter finds a condition true, false or failing on each of its rows. -/
theorem conditions_decided (rules : RegexRules) :
    (∀ f : Builtin, f.isPredicate = true ↔ ∀ rules args, (f.apply rules args).Decided) ∧
    (∀ (row : Row) (e : Expr) (f : Builtin) (args : List Expr), e.application? = some (f, args) →
      f.isPredicate = true → (evaluate rules row e).Decided) ∧
    (∀ (f : Builtin) (args : List Expr) (c : Condition), f = c.function ∧ args = c.args ↔
      Condition.ofCall f args = .ok c ∧ (Expr.apply f args).toCondition? = some c ∧ Expr.apply f args = c.toExpr) ∧
    (∀ (row : Row) (c : Condition), (c.evaluate rules row).Decided) ∧
    (∀ (rows : List Row) (c : Condition), let filtered := (Step.filter c).run rules rows
      filtered.value = rows.filter (fun row => truthIs true (c.evaluate rules row)) ∧
        rows.length = filtered.value.length + errorCount filtered.evaluations +
          rows.countP fun row => truthIs false (c.evaluate rules row)) := by
  refine ⟨Builtin.isPredicate_iff, fun row e f args call predicate => evaluate_predicate call predicate rules row, ?_,
    fun row c => c.decided rules row, fun rows c => ⟨?_, length_eq_kept_add rules c rows⟩⟩
  · intro f args c
    constructor
    · rintro ⟨rfl, rfl⟩
      refine ⟨dif_pos c.boolean, ?_, dif_pos c.boolean⟩
      rw [Expr.apply, dif_pos c.boolean]
      rfl
    · rintro ⟨made, _, _⟩
      unfold Condition.ofCall at made
      split at made
      · cases made
        exact ⟨rfl, rfl⟩
      · contradiction
  · rw [Step.run, filterRows_value]
    refine List.filter_congr fun row _ => ?_
    have decided := c.decided rules row
    rw [Condition.evaluate] at decided ⊢
    generalize evaluate rules row c.toExpr = o at decided ⊢
    cases decided with
    | boolean b => cases b <;> rfl
    | error e => rfl

/-- A row is kept, another has a false condition, and the condition of one that misses the field is an error. -/
theorem conditions_decided_of_negation :
    let unpaid : Condition := ⟨.connective .not, [.field ⟨["paid"]⟩], rfl⟩
    let rows : List Row := [.ofFields [("paid", .boolean false)], .ofFields [("paid", .boolean true)], .ofFields []]
    let filtered := (Step.filter unpaid).run 100 rows
    (Builtin.connective .not).isPredicate = true ∧
      (evaluate 100 (.ofFields []) (.call (.connective .not) [.field ⟨["paid"]⟩])).Decided ∧
      Condition.ofCall (.connective .not) [.field ⟨["paid"]⟩] = .ok unpaid ∧
      filtered.value = [.ofFields [("paid", .boolean false)]] ∧ errorCount filtered.evaluations = 1 := by
  intro unpaid rows filtered
  obtain ⟨predicates, calls, made, _, kept⟩ := conditions_decided 100
  have negation : (Builtin.connective .not).isPredicate = true :=
    (predicates _).mpr fun rules args => Builtin.apply_decided rfl rules args
  obtain ⟨value, counts⟩ := kept rows unpaid
  have holding : rows.filter (fun row => truthIs true (unpaid.evaluate 100 row)) =
      [.ofFields [("paid", .boolean false)]] := rfl
  have rejected : (rows.countP fun row => truthIs false (unpaid.evaluate 100 row)) = 1 := rfl
  rw [holding] at value
  rw [value, rejected] at counts
  refine ⟨negation, calls _ _ _ _ rfl negation, ((made _ _ unpaid).mp ⟨rfl, rfl⟩).1, value, ?_⟩
  change 3 = 1 + errorCount filtered.evaluations + 1 at counts
  omega

end DocQuery
