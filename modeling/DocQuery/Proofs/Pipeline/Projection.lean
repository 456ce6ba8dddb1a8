import Mathlib.Data.List.Pairwise
import DocQuery.Proofs.Document.Reading
import DocQuery.Proofs.Eval.Fields
import DocQuery.Proofs.Pipeline.Evaluations
import DocQuery.Proofs.Pipeline.Results

/-! Filtering before and after a projection. A condition cannot tell a row from its projection, if the projection
keeps what the condition reads. -/
namespace DocQuery

variable {rules : RegexRules} {paths : List FieldPath} {path : FieldPath} {row : Row}

/-- Paths of stored fields that can all be selected, each under its own path. -/
structure Selectable (paths : List FieldPath) : Prop where
  nonempty : ∀ p ∈ paths, p.segments ≠ []
  stored : ∀ p ∈ paths, p.synthetic? = none
  apart : paths.Pairwise FieldPath.Apart

/-- Whether a field is left by a projection to paths: it is none of those that are stored, or it is at or below
one of the paths. -/
def Covers (paths : List FieldPath) (path : FieldPath) : Prop :=
  path.synthetic?.isSome ∨ ∃ p ∈ paths, p.segments <+: path.segments

instance (paths : List FieldPath) : DecidablePred (Covers paths) :=
  fun _ => inferInstanceAs (Decidable (_ ∨ _))

instance : Std.Symm FieldPath.Apart := ⟨fun _ _ => FieldPath.Apart.symm⟩

/-- A row with nothing but what it has at some paths. -/
def Row.project (paths : List FieldPath) (row : Row) : Row :=
  row.withFields (writeFields [] (paths.filterMap fun p => (getField row.fields p.segments).map (p, ·)))

theorem Row.value?_field (row : Row) (path : FieldPath) : (row.field path).value? = row.lookup path := by
  unfold field
  cases row.lookup path <;> rfl

theorem lookup_of_stored (row : Row) (stored : path.synthetic? = none) :
    row.lookup path = getField row.fields path.segments := by
  rw [Row.lookup, stored]

theorem selectFields_value (rules : RegexRules) (selectable : Selectable paths) (row : Row) :
    (selectFields rules (paths.map .ofField) row).value = row.project paths := by
  simp only [selectFields, bind, pure, readWrites_value, List.filterMap_map, Row.project]
  congr 2
  refine List.filterMap_congr fun p hp => ?_
  have read : (evaluate rules row (.field p)).value? = getField row.fields p.segments := by
    rw [evaluate, Row.value?_field, lookup_of_stored row (selectable.stored p hp)]
  exact congrArg (Option.map (p, ·)) read

/-- What is selected is read as before, be it there or not. -/
theorem getField_project (selectable : Selectable paths) (member : path ∈ paths) (row : Row) :
    getField (row.project paths).fields path.segments = getField row.fields path.segments := by
  let write (p : FieldPath) : Option (FieldPath × Value) := (getField row.fields p.segments).map (p, ·)
  have path_of_write {p : FieldPath} {w : FieldPath × Value} (h : write p = some w) : p = w.1 := by
    obtain ⟨v, _, rfl⟩ := Option.map_eq_some_iff.mp h
    rfl
  change getField (writeFields [] (paths.filterMap write)) path.segments = _
  cases found : getField row.fields path.segments with
  | some v =>
    have listed : (path, v) ∈ paths.filterMap write :=
      List.mem_filterMap.mpr ⟨path, member, by simp only [write, found, Option.map_some]⟩
    refine getField_writeFields [] (selectable.apart.filterMap _ ?_) listed (selectable.nonempty path member)
    intro p q apart w hw u hu
    exact path_of_write hw ▸ path_of_write hu ▸ apart
  | none =>
    rw [getField_writeFields_apart [] fun w hw => ?_, getField_nil]
    obtain ⟨p, hp, written⟩ := List.mem_filterMap.mp hw
    cases path_of_write written
    have other : w.1 ≠ path := by
      rintro rfl
      simp only [write, found] at written
      contradiction
    exact selectable.apart.forall hp member other

theorem lookup_project (selectable : Selectable paths) (covered : Covers paths path) (row : Row) :
    (row.project paths).lookup path = row.lookup path := by
  unfold Row.lookup
  cases synthetic : path.synthetic? with
  | some field => cases field <;> rfl
  | none =>
    obtain ⟨p, member, rest, below⟩ := covered.resolve_left (by simp [synthetic])
    have same := getField_project selectable member row
    by_cases long : rest = []
    · rw [long, List.append_nil] at below
      rwa [← below]
    · have nonempty := selectable.nonempty p member
      rw [← below]
      simp only [getField_append _ nonempty long, same]

theorem evaluate_project (rules : RegexRules) (selectable : Selectable paths) {e : Expr}
    (covered : ∀ path ∈ e.paths, Covers paths path) (row : Row) :
    evaluate rules (row.project paths) e = evaluate rules row e :=
  evaluate_congr rules fun path hp => lookup_project selectable (covered path hp) row

theorem failures_select (rules : RegexRules) (paths : List FieldPath) (row : Row) :
    (Step.select (paths.map .ofField)).failures rules row = 0 := by
  simp only [Step.failures, Step.evaluated, List.map_map, List.countP_map, List.countP_eq_zero]
  intro p _
  simp only [Function.comp_apply, Assignment.ofField, evaluate, Row.field]
  cases row.lookup p <;> exact Bool.false_ne_true

section Steps

variable {c : Condition}

theorem run_select (rules : RegexRules) (selectable : Selectable paths) (rows : List Row) :
    ((Step.select (paths.map .ofField)).run rules rows).value = rows.map (·.project paths) := by
  simp only [Step.run, each_value, selectFields_value rules selectable]

theorem run_filter_select (rules : RegexRules) (selectable : Selectable paths)
    (covered : ∀ path ∈ c.toExpr.paths, Covers paths path) (rows : List Row) :
    ((Step.filter c).run rules ((Step.select (paths.map .ofField)).run rules rows).value).value =
      ((Step.select (paths.map .ofField)).run rules ((Step.filter c).run rules rows).value).value := by
  rw [run_select rules selectable, run_select rules selectable, Step.run, Step.run, filterRows_value,
    filterRows_value, List.filter_map]
  simp only [Function.comp_def, evaluate_project rules selectable covered]

theorem failures_filter_select (rules : RegexRules) (selectable : Selectable paths)
    (covered : ∀ path ∈ c.toExpr.paths, Covers paths path) (row : Row) :
    (Step.filter c).failures rules (row.project paths) = (Step.filter c).failures rules row := by
  simp only [Step.failures, Step.evaluated, List.countP_singleton, evaluate_project rules selectable covered]

/-- Both orders make the same of rows, whatever comes after them. -/
theorem runSteps_filter_select (rules : RegexRules) (selectable : Selectable paths)
    (covered : ∀ path ∈ c.toExpr.paths, Covers paths path) (rows : List Row) (later : List Step) :
    let first := runSteps rules rows (.select (paths.map .ofField) :: .filter c :: later)
    let second := runSteps rules rows (.filter c :: .select (paths.map .ofField) :: later)
    first.rows = second.rows ∧ first.errors = second.errors ∧ first.limited = second.limited := by
  intro first second
  have rows_eq := run_filter_select rules selectable covered rows
  refine ⟨?_, ?_, ?_⟩
  · exact congrArg (fun done => (runSteps rules done later).rows) rows_eq
  · have silent (rows : List Row) : (rows.map ((Step.select (paths.map .ofField)).failures rules)).sum = 0 := by
      simp [funext (failures_select rules paths)]
    have same : ((rows.map (·.project paths)).map ((Step.filter c).failures rules)).sum =
        (rows.map ((Step.filter c).failures rules)).sum := by
      simp only [List.map_map, Function.comp_def, failures_filter_select rules selectable covered]
    simp only [first, second, errors_runSteps_cons, silent, rows_eq, Nat.zero_add]
    rw [run_select rules selectable, same]
  · exact congrArg (fun done => (runSteps rules done later).limited) rows_eq

end Steps

namespace Pipeline

/-- Selecting fields and then filtering comes to the same as filtering first, anywhere in a pipeline, if the condition
reads no stored field that is left behind. -/
theorem filter_select_comm (rules : RegexRules) {p q : Pipeline} {c : Condition} {earlier later : List Step}
    (source : p.source = q.source)
    (selects : p.steps = earlier ++ .select (paths.map .ofField) :: .filter c :: later)
    (filters : q.steps = earlier ++ .filter c :: .select (paths.map .ofField) :: later)
    (selectable : Selectable paths) (covered : ∀ path ∈ c.toExpr.paths, Covers paths path) (docs : List Document) :
    (p.execute rules docs).rows = (q.execute rules docs).rows ∧
      (p.execute rules docs).errors = (q.execute rules docs).errors ∧
      (p.execute rules docs).limitApplied = (q.execute rules docs).limitApplied := by
  obtain ⟨rows, errors, limited⟩ := runSteps_filter_select rules selectable covered
    (runSteps rules (q.source.rows docs) earlier).rows later
  refine ⟨?_, ?_, ?_⟩
  · simp only [execute, source, selects, filters, runSteps_append, rows]
  · rw [errors_execute, errors_execute, source, selects, filters, errors_runSteps_append, errors_runSteps_append,
      errors]
  · simp only [execute, source, selects, filters, runSteps_append, limited]

/-- A condition on a part of a selected map and on the key of the document, which fails where there is no such part. -/
theorem filter_select_comm_below_map :
    let paths : List FieldPath := [⟨["name"]⟩, ⟨["size", "outer"]⟩]
    let wider : Expr := .call (.arithmetic .add) [.field ⟨["size", "outer", "width"]⟩, .constant (.integer 1)]
    let c : Condition := ⟨.connective .and, [.condition (.relation .gt) [wider, .constant (.integer 3)] rfl,
      .condition (.inspection .exists) [.field ⟨["__name__"]⟩] rfl], rfl⟩
    let p : Pipeline := ⟨.database, [.select (paths.map .ofField), .filter c], rfl, by simp [Step.fault?]⟩
    let q : Pipeline := ⟨.database, [.filter c, .select (paths.map .ofField)], rfl, by simp [Step.fault?]⟩
    let time : Timestamp := ⟨0, 0, by decide, by decide, by decide⟩
    let docs : List Document :=
      [⟨⟨⟨["shop", "a"]⟩, by decide⟩, time, none, [("price", .integer 5),
        ("size", .map [("outer", .map [("width", .integer 4)]), ("inner", .integer 2)])]⟩,
       ⟨⟨⟨["shop", "b"]⟩, by decide⟩, time, none, [("name", .string "pen"), ("size", .integer 4)]⟩]
    Selectable paths ∧ (∀ path ∈ c.toExpr.paths, Covers paths path) ∧
      (p.execute 100 docs).rows = (q.execute 100 docs).rows ∧
      (p.execute 100 docs).errors = (q.execute 100 docs).errors ∧
      (q.execute 100 docs).paths = ["shop/a"] ∧ (q.execute 100 docs).errors = 1 := by
  intro paths wider c p q time docs
  have selectable : Selectable paths := ⟨by decide, by decide, by decide⟩
  have covered : ∀ path ∈ c.toExpr.paths, Covers paths path := by decide
  have selects : p.steps = [] ++ .select (paths.map .ofField) :: .filter c :: [] := rfl
  have filters : q.steps = [] ++ .filter c :: .select (paths.map .ofField) :: [] := rfl
  have same := filter_select_comm 100 (p := p) (q := q) rfl selects filters selectable covered docs
  exact ⟨selectable, covered, same.1, same.2.1, by decide +kernel, by decide +kernel⟩

end Pipeline
end DocQuery
