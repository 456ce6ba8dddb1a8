import DocQuery.Proofs.Eval.EntryOrder
import DocQuery.Proofs.Pipeline.Evaluations
import DocQuery.Proofs.Pipeline.Execute

/-! The order of map entries never shows. Documents that are equal up to it make every pipeline do the same, with rows
that are equal up to it and as many errors. -/
namespace DocQuery

variable {rules : RegexRules} {a b : Row} {rows rows' : List Row}

/-- Whether no map in a constant of the step holds a key twice. -/
def Step.distinctKeys (step : Step) : Bool := step.exprs.all Expr.distinctKeys

theorem Step.distinctKeys_iff {step : Step} : step.distinctKeys ↔ ∀ e ∈ step.exprs, e.distinctKeys :=
  List.all_eq_true

theorem all_zip_self {items : List α} {p : α × α → Bool} (each : ∀ a ∈ items, p (a, a)) : (items.zip items).all p := by
  induction items with
  | nil => rfl
  | cons a as ih =>
    rw [List.forall_mem_cons] at each
    rw [List.zip_cons_cons, List.all_cons, each.1, ih each.2]
    rfl

section Assignments

variable {as : List Assignment} {totals : List Accumulator}

theorem assignments_match_self (distinct : ∀ a ∈ as, a.expr.distinctKeys) :
    AssignmentsMatch (fun _ => True) as as :=
  List.forall₂_same.mpr fun a ha => ⟨rfl, Expr.matches_self (distinct a ((inTextOrder_perm _ as).mem_iff.mp ha))⟩

theorem assignmentsSettled_self (distinct : ∀ a ∈ as, a.expr.distinctKeys) : assignmentsSettled true true as as :=
  all_zip_self fun a ha => Expr.settled_self (distinct a ((inTextOrder_perm _ as).mem_iff.mp ha)) true

theorem accumulators_match_self (distinct : ∀ a ∈ totals, ∀ e ∈ a.args, e.distinctKeys) :
    AccumulatorsMatch (fun _ => True) totals totals := by
  refine List.forall₂_same.mpr fun a ha => ⟨rfl, rfl, List.forall₂_same.mpr fun e he => ?_⟩
  exact Expr.matches_self (distinct a ((inTextOrder_perm _ totals).mem_iff.mp ha) e he)

theorem Accumulator.settled_self {a : Accumulator} (distinct : ∀ e ∈ a.args, e.distinctKeys) :
    a.settled true true a := by
  obtain ⟨path, kind, args⟩ := a
  cases args with
  | nil => rfl
  | cons e es => exact Expr.settled_self (distinct e List.mem_cons_self) _

theorem accumulatorsSettled_self (distinct : ∀ a ∈ totals, ∀ e ∈ a.args, e.distinctKeys) :
    accumulatorsSettled true true totals totals :=
  all_zip_self fun a ha => a.settled_self (distinct a ((inTextOrder_perm _ totals).mem_iff.mp ha))

end Assignments

namespace Step

variable {step : Step}

theorem matches_self (distinct : step.distinctKeys) : step.Matches (fun _ => True) step := by
  rw [distinctKeys_iff] at distinct
  cases step with
  | filter c => exact .filter (Expr.matches_self (distinct _ (List.mem_singleton_self _)))
  | sort keys =>
    refine .sort (List.forall₂_same.mpr fun key hk => ⟨Expr.matches_self (distinct _ ?_), rfl⟩)
    exact List.mem_map_of_mem hk
  | limit n => exact .limit n
  | offset n => exact .offset n
  | addFields fields => exact .addFields (assignments_match_self (List.forall_mem_map.mp distinct))
  | select fields => exact .select (assignments_match_self (List.forall_mem_map.mp distinct))
  | distinct groups => exact .distinct (assignments_match_self (List.forall_mem_map.mp distinct))
  | aggregate groups accumulators =>
    obtain ⟨first, second⟩ := List.forall_mem_append.mp distinct
    exact .aggregate (assignments_match_self (List.forall_mem_map.mp first))
      (accumulators_match_self (List.forall_mem_flatMap.mp second))
  | findNearest query =>
    exact .findNearest {
      field := Expr.matches_self (distinct _ (List.mem_singleton_self _))
      target := List.forall₂_same.mpr fun _ _ => .refl _
      measure := rfl
      limit := rfl
      distanceField := rfl }

theorem settled_self (distinct : step.distinctKeys) : step.settled true true step := by
  rw [distinctKeys_iff] at distinct
  cases step with
  | filter c =>
    have condition := Expr.settled_self (distinct _ (List.mem_singleton_self _)) false
    exact Bool.and_eq_true_iff.mpr ⟨condition, rfl⟩
  | sort keys =>
    refine Bool.and_eq_true_iff.mpr ⟨all_zip_self fun key hk => ?_, rfl⟩
    exact Expr.settled_self (distinct _ (List.mem_map_of_mem hk)) false
  | limit | offset => rfl
  | addFields fields =>
    exact Bool.and_eq_true_iff.mpr ⟨assignmentsSettled_self (List.forall_mem_map.mp distinct), rfl⟩
  | select fields => exact assignmentsSettled_self (List.forall_mem_map.mp distinct)
  | distinct groups => exact assignmentsSettled_self (List.forall_mem_map.mp distinct)
  | aggregate groups accumulators =>
    obtain ⟨first, second⟩ := List.forall_mem_append.mp distinct
    exact Bool.and_eq_true_iff.mpr ⟨assignmentsSettled_self (List.forall_mem_map.mp first),
      accumulatorsSettled_self (List.forall_mem_flatMap.mp second)⟩
  | findNearest query =>
    have field := Expr.settled_self (distinct _ (List.mem_singleton_self _)) true
    exact Bool.and_eq_true_iff.mpr ⟨Bool.and_eq_true_iff.mpr ⟨field, beq_self_eq_true query.target⟩, rfl⟩

theorem run_agrees_self (rules : RegexRules) (h : RowsAgree (fun _ => True) true rows rows')
    (distinct : step.distinctKeys) :
    RowsAgree (fun _ => True) true (step.run rules rows).value (step.run rules rows').value :=
  step.run_agrees rules h (matches_self distinct) (settled_self distinct) (.inl rfl)

theorem errors_agree (rules : RegexRules) (h : RowsAgree (fun _ => True) true rows rows')
    (distinct : step.distinctKeys) : rows.map (step.failures rules) = rows'.map (step.failures rules) := by
  refine map_eq_of_forall₂ h fun a _ b row => failures_congr fun e he => ?_
  exact (evaluate_agrees_self rules row (distinctKeys_iff.mp distinct e he)).isError_eq

end Step

/-- A run of steps, by what each of them makes of rows that agree. -/
theorem runSteps_agree_self (rules : RegexRules) (steps : List Step) (h : RowsAgree (fun _ => True) true rows rows')
    (distinct : ∀ step ∈ steps, step.distinctKeys) :
    let first := runSteps rules rows steps
    let second := runSteps rules rows' steps
    RowsAgree (fun _ => True) true first.rows second.rows ∧ first.limited = second.limited ∧
      first.errors = second.errors := by
  induction steps generalizing rows rows' with
  | nil => exact ⟨h, rfl, rfl⟩
  | cons step steps ih =>
    rw [List.forall_mem_cons] at distinct
    have done := step.run_agrees_self rules h distinct.1
    obtain ⟨last, limited, errors⟩ := ih done distinct.2
    refine ⟨last, ?_, ?_⟩
    · simp only [runSteps, h.length_eq, done.length_eq, limited]
    · rw [errors_runSteps_cons, errors_runSteps_cons, step.errors_agree rules h distinct.1, errors]

/-- Documents of one identity whose fields are equal up to the order of map entries. -/
structure Document.Same (a b : Document) : Prop where
  key : a.key = b.key
  updateTime : a.updateTime = b.updateTime
  createTime : a.createTime = b.createTime
  fields : (Value.map a.fields).same (.map b.fields)

/-- Rows of one identity, if any, whose fields are equal up to the order of map entries. -/
structure Row.Same (a b : Row) : Prop where
  key : a.key = b.key
  updateTime : a.updateTime = b.updateTime
  createTime : a.createTime = b.createTime
  fields : (Value.map a.fields).same (.map b.fields)

/-- Whether no map in a document holds a key twice. -/
def Document.distinctKeys (doc : Document) : Bool := (Value.map doc.fields).distinctKeys

theorem Row.Agrees.same {legible : DocumentKey → Prop} (h : a.Agrees legible true b) : a.Same b where
  key := h.key
  updateTime := h.updateTime
  createTime := h.createTime
  fields := (Value.Agrees.map_iff.mpr ⟨_, rfl, h.fields⟩).same_of_exact

theorem Document.Same.toRow_agrees {doc doc' : Document} (h : doc.Same doc') (distinct : doc.distinctKeys)
    (distinct' : doc'.distinctKeys) : doc.toRow.Agrees (fun _ => True) true doc'.toRow where
  key := congrArg some h.key
  clear := fun _ _ => trivial
  updateTime := congrArg some h.updateTime
  createTime := h.createTime
  fields := by
    obtain ⟨_, equal, agree⟩ := Value.Agrees.map_iff.mp
      (.of_same_distinct distinct distinct' (fun _ _ => trivial) h.fields :
        (Value.map doc.fields).Agrees (fun _ => True) true (.map doc'.fields))
    cases equal
    exact agree

namespace Pipeline

/-- Documents that are equal up to the order of map entries give results that are so too, and as many errors, whatever
the pipeline; and every expression has the same outcome on them. -/
theorem execute_of_reordered (rules : RegexRules) (p : Pipeline) {docs docs' : List Document}
    (same : List.Forall₂ Document.Same docs docs') (distinct : ∀ doc ∈ docs, doc.distinctKeys)
    (distinct' : ∀ doc ∈ docs', doc.distinctKeys) (constants : ∀ step ∈ p.steps, step.distinctKeys) :
    let first := p.execute rules docs
    let second := p.execute rules docs'
    List.Forall₂ Row.Same first.rows second.rows ∧ first.scanned = second.scanned ∧
      first.returned = second.returned ∧ first.limitApplied = second.limitApplied ∧ first.errors = second.errors ∧
      ∀ e : Expr, e.distinctKeys → List.Forall₂
        (fun doc doc' => (evaluate rules doc.toRow e).Same (evaluate rules doc'.toRow e)) docs docs' := by
  intro first second
  have agree : List.Forall₂ (fun doc doc' => doc.key = doc'.key ∧ doc.toRow.Agrees (fun _ => True) true doc'.toRow)
      docs docs' :=
    forall₂_imp_mem same fun doc hd doc' hd' h => ⟨h.key, h.toRow_agrees (distinct doc hd) (distinct' doc' hd')⟩
  have chosen : RowsAgree (fun _ => True) true (p.source.rows docs) (p.source.rows docs') := by
    refine forall₂_map_map.mpr ((List.rel_filter (fun doc doc' h => ?_) agree).imp fun _ _ h => h.2)
    simp only [h.1]
  obtain ⟨rows, limited, errors⟩ := runSteps_agree_self rules p.steps chosen constants
  refine ⟨rows.imp fun _ _ row => row.same, same.length_eq, rows.length_eq, limited, errors, fun e he => ?_⟩
  exact agree.imp fun _ _ h => evaluate_same rules h.2 he

/-- A map that is compared, merged into another one and taken for a number. -/
theorem execute_of_reordered_map :
    let size : Expr := .field ⟨["size"]⟩
    let bounds : Expr := .constant (.map [("h", .integer 2), ("w", .integer 1)])
    let p : Pipeline := ⟨.database, [.filter ⟨.relation .eq, [size, bounds], rfl⟩,
      .addFields [⟨⟨["more"]⟩, .call (.collection .mapMerge) [bounds, size]⟩,
        ⟨⟨["next"]⟩, .call (.arithmetic .add) [size, .constant (.integer 1)]⟩]], rfl, by simp [Step.fault?]⟩
    let doc (entries : Fields) : Document :=
      ⟨⟨⟨["shop", "a"]⟩, by decide⟩, ⟨0, 0, by decide, by decide, by decide⟩, none, [("size", .map entries)]⟩
    let docs := [doc [("w", .integer 1), ("h", .integer 2)]]
    let docs' := [doc [("h", .integer 2), ("w", .integer 1)]]
    List.Forall₂ Document.Same docs docs' ∧ (∀ doc ∈ docs, doc.distinctKeys) ∧ (∀ doc ∈ docs', doc.distinctKeys) ∧
      (∀ step ∈ p.steps, step.distinctKeys) ∧
      List.Forall₂ Row.Same (p.execute 100 docs).rows (p.execute 100 docs').rows ∧
      (p.execute 100 docs).returned = 1 ∧ (p.execute 100 docs').errors = 1 := by
  intro size bounds p doc docs docs'
  have same : List.Forall₂ Document.Same docs docs' := .cons ⟨rfl, rfl, rfl, by decide +kernel⟩ .nil
  have distinct : ∀ doc ∈ docs, doc.distinctKeys := by simpa [docs] using (by decide +kernel : (doc _).distinctKeys)
  have distinct' : ∀ doc ∈ docs', doc.distinctKeys := by simpa [docs'] using (by decide +kernel : (doc _).distinctKeys)
  have constants : ∀ step ∈ p.steps, step.distinctKeys := by simpa [p] using (by decide +kernel : _ ∧ _)
  have results := execute_of_reordered 100 p same distinct distinct' constants
  exact ⟨same, distinct, distinct', constants, results.1, by decide +kernel, by decide +kernel⟩

end Pipeline
end DocQuery
