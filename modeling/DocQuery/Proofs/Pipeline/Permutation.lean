import DocQuery.Proofs.Pipeline.EntryOrder

/-! Listing the entries of a stage in another order. Writes at paths apart from each other come out in any order, totals
do not see each other, and a document is listed or it is not. So the stage makes the same rows, up to the order of map
entries, and as many of its evaluations fail. -/
namespace DocQuery

variable {rules : RegexRules} {s t : Step} {rows rows' : List Row}

/-- The same step with its entries in another order, or in the same one. Entries change places only where no path leads
to or through that of another. -/
inductive Step.Permuted : Step → Step → Prop
  | same (s : Step) : Permuted s s
  | addFields {as bs : List Assignment} : as.Perm bs → as.Pairwise (fun a b => a.path.Apart b.path) →
      Permuted (.addFields as) (.addFields bs)
  | select {as bs : List Assignment} : as.Perm bs → as.Pairwise (fun a b => a.path.Apart b.path) →
      Permuted (.select as) (.select bs)
  | aggregate (groups : List Assignment) {as bs : List Accumulator} : as.Perm bs →
      as.Pairwise (fun a b => a.path.Apart b.path) → Permuted (.aggregate groups as) (.aggregate groups bs)

/-- Whether no map in a row holds a key twice. -/
def Row.distinctKeys (row : Row) : Bool := (Value.map row.fields).distinctKeys

theorem Row.agrees_self {row : Row} (distinct : row.distinctKeys) : row.Agrees (fun _ => True) true row where
  key := rfl
  clear := fun _ _ => trivial
  updateTime := rfl
  createTime := rfl
  fields := .refl distinct fun _ _ => trivial

/-- Rows that are equal up to the order of map entries, after as many errors. -/
structure Observed.Alike (x y : Observed (List Row)) : Prop where
  rows : List.Forall₂ Row.Same x.value y.value
  errors : errorCount x.evaluations = errorCount y.evaluations

section Entries

variable {as bs : List Assignment} {totals totals' : List Accumulator}

theorem assignments_alike (distinct : ∀ a ∈ as, a.expr.distinctKeys) :
    List.Forall₂ (fun a b => a.Matches (fun _ => True) b ∧ a.settled true true b) as as := by
  refine List.forall₂_same.mpr fun a ha => ⟨⟨rfl, ?_⟩, ?_⟩
  · exact Expr.matches_self (distinct a ha)
  · exact Expr.settled_self (distinct a ha) true

theorem accumulators_alike (distinct : ∀ a ∈ totals, ∀ e ∈ a.args, e.distinctKeys) :
    List.Forall₂ (Accumulator.Alike (fun _ => True) true true) totals totals := by
  refine List.forall₂_same.mpr fun a ha => ⟨⟨rfl, rfl, ?_⟩, ?_⟩
  · exact List.forall₂_same.mpr fun e he => Expr.matches_self (distinct a ha e he)
  · exact a.settled_self (distinct a ha)

theorem assignments_paired_of_perm (perm : as.Perm bs) (apart : as.Pairwise fun a b => a.path.Apart b.path)
    (distinct : ∀ a ∈ as, a.expr.distinctKeys) : AssignmentsPaired (fun _ => True) true true as bs :=
  ⟨as, assignments_alike distinct, .inr ⟨apart, perm⟩⟩

theorem accumulators_paired_of_perm (perm : totals.Perm totals')
    (apart : totals.Pairwise fun a b => a.path.Apart b.path)
    (distinct : ∀ a ∈ totals, ∀ e ∈ a.args, e.distinctKeys) :
    AccumulatorsPaired (fun _ => True) true true totals totals' :=
  ⟨totals, accumulators_alike distinct, .inr ⟨apart, perm⟩⟩

theorem groups_paired_self (distinct : ∀ a ∈ as, a.expr.distinctKeys) :
    GroupsPaired (fun _ => True) true true as as :=
  ⟨⟨as, assignments_alike distinct, .inl rfl⟩, .inl (assignments_alike distinct)⟩

end Entries

namespace Step.Permuted

/-- Rows that agree go on to agree. -/
theorem run_agrees (rules : RegexRules) (h : s.Permuted t) (distinct : s.distinctKeys)
    (agree : RowsAgree (fun _ => True) true rows rows') :
    RowsAgree (fun _ => True) true (s.run rules rows).value (t.run rules rows').value := by
  cases h with
  | same => exact s.run_agrees_self rules agree distinct
  | addFields perm apart =>
    have exprs := List.forall_mem_map.mp (distinctKeys_iff.mp distinct)
    exact addFields_agree rules agree (assignments_paired_of_perm perm apart exprs) rfl
  | select perm apart =>
    have exprs := List.forall_mem_map.mp (distinctKeys_iff.mp distinct)
    exact selectFields_agree rules agree (assignments_paired_of_perm perm apart exprs)
  | aggregate groups perm apart =>
    obtain ⟨keys, args⟩ := List.forall_mem_append.mp (distinctKeys_iff.mp distinct)
    have paired := groups_paired_self (List.forall_mem_map.mp keys)
    exact aggregateRows_agree rules agree paired
      (accumulators_paired_of_perm perm apart (List.forall_mem_flatMap.mp args))

theorem evaluated_perm (rules : RegexRules) (h : s.Permuted t) (row : Row) :
    (s.evaluated rules row).Perm (t.evaluated rules row) := by
  cases h with
  | same => exact .refl _
  | addFields perm => exact perm.map _
  | select perm => exact perm.map _
  | aggregate groups perm =>
    -- the groups are evaluated first, as listed, and only their errors decide whether the totals are reached
    refine List.Perm.append_left _ ?_
    split
    · exact perm.filterMap _
    · exact .refl _

theorem failures_eq (rules : RegexRules) (h : s.Permuted t) (distinct : s.distinctKeys)
    (agree : RowsAgree (fun _ => True) true rows rows') :
    (rows.map (s.failures rules)).sum = (rows'.map (t.failures rules)).sum := by
  have moved (row : Row) : s.failures rules row = t.failures rules row :=
    (h.evaluated_perm rules row).countP_eq _
  rw [s.errors_agree rules agree distinct, funext moved]

theorem run_alike (rules : RegexRules) (h : s.Permuted t) (distinct : s.distinctKeys)
    (agree : RowsAgree (fun _ => True) true rows rows') : (s.run rules rows).Alike (t.run rules rows') := by
  constructor
  · exact (h.run_agrees rules distinct agree).imp fun _ _ row => row.same
  · rw [s.errorCount_run, t.errorCount_run, h.failures_eq rules distinct agree]

theorem isLimiting_eq (h : s.Permuted t) : s.isLimiting = t.isLimiting := by
  cases h <;> rfl

end Step.Permuted

/-- A run of steps, by what each of them makes of rows that agree. -/
theorem runSteps_of_permuted (rules : RegexRules) {ss ts : List Step} (steps : List.Forall₂ Step.Permuted ss ts)
    (distinct : ∀ step ∈ ss, step.distinctKeys) (agree : RowsAgree (fun _ => True) true rows rows') :
    let first := runSteps rules rows ss
    let second := runSteps rules rows' ts
    RowsAgree (fun _ => True) true first.rows second.rows ∧ first.limited = second.limited ∧
      first.errors = second.errors := by
  induction steps generalizing rows rows' with
  | nil => exact ⟨agree, rfl, rfl⟩
  | cons step _ ih =>
    rw [List.forall_mem_cons] at distinct
    have done := step.run_agrees rules distinct.1 agree
    obtain ⟨last, limited, errors⟩ := ih distinct.2 done
    refine ⟨last, ?_, ?_⟩
    · simp only [runSteps, agree.length_eq, done.length_eq, step.isLimiting_eq, limited]
    · rw [errors_runSteps_cons, errors_runSteps_cons, step.failures_eq rules distinct.1 agree, errors]

namespace Pipeline

/-- Independent entries can be listed in any order: those of one step over any rows, the documents of a source, and the
entries of as many stages of a pipeline as one likes. -/
theorem results_of_permuted (rules : RegexRules) :
    (∀ (s t : Step) (rows : List Row), s.Permuted t → s.distinctKeys → (∀ row ∈ rows, row.distinctKeys) →
      (s.run rules rows).Alike (t.run rules rows)) ∧
    (∀ (keys keys' : List DocumentKey) (docs : List Document), keys.Perm keys' →
      (Source.documents keys).rows docs = (Source.documents keys').rows docs) ∧
    ∀ (p q : Pipeline) (docs : List Document), p.source.Matches q.source → List.Forall₂ Step.Permuted p.steps q.steps →
      (∀ step ∈ p.steps, step.distinctKeys) → (∀ doc ∈ docs, doc.distinctKeys) →
      let first := p.execute rules docs
      let second := q.execute rules docs
      List.Forall₂ Row.Same first.rows second.rows ∧ first.scanned = second.scanned ∧
        first.limitApplied = second.limitApplied ∧ first.errors = second.errors := by
  refine ⟨?_, ?_, ?_⟩
  · intro s t rows permuted constants distinct
    exact permuted.run_alike rules constants (List.forall₂_same.mpr fun row hr => Row.agrees_self (distinct row hr))
  · intro keys keys' docs perm
    exact (Source.Matches.documents perm).rows_eq docs
  · intro p q docs source steps constants distinct first second
    have chosen : RowsAgree (fun _ => True) true (p.source.rows docs) (q.source.rows docs) := by
      rw [← source.rows_eq]
      refine List.forall₂_same.mpr fun row member => ?_
      obtain ⟨doc, kept, rfl⟩ := List.mem_map.mp member
      exact Row.agrees_self (distinct doc (List.mem_filter.mp kept).1)
    obtain ⟨rows, limited, errors⟩ := runSteps_of_permuted rules steps constants chosen
    exact ⟨rows.imp fun _ _ row => row.same, rfl, limited, errors⟩

/-- Two documents, two fields inside one new map, one of which fails, and two totals inside another one. -/
theorem results_of_permuted_in_maps :
    let a : DocumentKey := ⟨⟨["shop", "a"]⟩, by decide⟩
    let b : DocumentKey := ⟨⟨["shop", "b"]⟩, by decide⟩
    let doc (key : DocumentKey) (price : Value) : Document :=
      ⟨key, ⟨0, 0, by decide, by decide, by decide⟩, none, [("price", price)]⟩
    let cost : Assignment := ⟨⟨["item", "cost"]⟩, .field ⟨["price"]⟩⟩
    let next : Assignment := ⟨⟨["item", "next"]⟩, .call (.arithmetic .add) [.field ⟨["price"]⟩, .constant (.integer 1)]⟩
    let sum : Accumulator := ⟨⟨["total", "cost"]⟩, .sum, [.field ⟨["item", "cost"]⟩]⟩
    let count : Accumulator := ⟨⟨["total", "rows"]⟩, .count, []⟩
    let p : Pipeline := ⟨.documents [a, b], [.addFields [cost, next], .aggregate [] [sum, count]], by decide,
      by simp [Step.fault?]⟩
    let q : Pipeline := ⟨.documents [b, a], [.addFields [next, cost], .aggregate [] [count, sum]], by decide,
      by simp [Step.fault?]⟩
    let docs := [doc a (.integer 5), doc b (.string "none")]
    let row : Row := .ofFields [("item", .map [("price", .integer 1)])]
    p.source.Matches q.source ∧ List.Forall₂ Step.Permuted p.steps q.steps ∧
      (∀ step ∈ p.steps, step.distinctKeys) ∧ (∀ doc ∈ docs, doc.distinctKeys) ∧ row.distinctKeys ∧
      List.Forall₂ Row.Same (p.execute 100 docs).rows (q.execute 100 docs).rows ∧
      (p.execute 100 docs).errors = (q.execute 100 docs).errors ∧ (q.execute 100 docs).errors = 1 ∧
      ((Step.addFields [cost, next]).run 100 [row]).Alike ((Step.addFields [next, cost]).run 100 [row]) := by
  intro a b doc cost next sum count p q docs row
  have source : p.source.Matches q.source := .documents (.swap b a [])
  have fields : Step.Permuted (.addFields [cost, next]) (.addFields [next, cost]) := by
    refine .addFields (.swap next cost []) ?_
    simp [cost, next, FieldPath.Apart]
  have totals : Step.Permuted (.aggregate [] [sum, count]) (.aggregate [] [count, sum]) := by
    refine .aggregate [] (.swap count sum []) ?_
    simp [sum, count, FieldPath.Apart]
  have steps : List.Forall₂ Step.Permuted p.steps q.steps := .cons fields (.cons totals .nil)
  have constants : ∀ step ∈ p.steps, step.distinctKeys := by simpa [p] using (by decide +kernel : _ ∧ _)
  have distinct : ∀ doc ∈ docs, doc.distinctKeys := by simpa [docs] using (by decide +kernel : _ ∧ _)
  have single : row.distinctKeys := by decide +kernel
  obtain ⟨step, _, run⟩ := results_of_permuted 100
  obtain ⟨rows, _, _, errors⟩ := run p q docs source steps constants distinct
  refine ⟨source, steps, constants, distinct, single, rows, errors, by decide +kernel, ?_⟩
  exact step _ _ [row] fields (constants _ List.mem_cons_self) (by simpa using single)

end Pipeline
end DocQuery
