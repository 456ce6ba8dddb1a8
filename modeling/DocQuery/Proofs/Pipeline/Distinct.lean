import DocQuery.Proofs.Pipeline.Aliases
import DocQuery.Proofs.Pipeline.Errors

/-! Distinct rows of distinct rows. A row that stands for a group has the keys of the group at their aliases, so where
the keys are fields under their own paths, it reads as the row that it stands for. -/
namespace DocQuery

variable {rules : RegexRules} {groups : List Assignment} {paths : List FieldPath} {rows : List Row} {row : Row}

/-- The row that stands for a group of which a row comes first. -/
def representative (rules : RegexRules) (groups : List Assignment) (row : Row) : Row :=
  row.withFields (keyFields groups (rowKeys rules groups row))

section Groups

/-- A row that belongs to a group is found in the same group once it has nothing but its keys. -/
def ReadsBack (rules : RegexRules) (groups : List Assignment) : Prop :=
  ∀ row, belongs rules groups row = true → belongs rules groups (representative rules groups row) = true ∧
    rowKeys rules groups (representative rules groups row) = rowKeys rules groups row

theorem distinctRows_value_eq (rules : RegexRules) (groups : List Assignment) (rows : List Row) :
    (distinctRows rules groups rows).value =
      ((groupCells rules groups rows).map Cell.first).map (representative rules groups) := by
  rw [distinctRows_eq, List.map_map]
  rfl

theorem belongs_of_mem_firsts (h : row ∈ (groupCells rules groups rows).map Cell.first) :
    belongs rules groups row = true :=
  (List.mem_filter.mp ((firsts_sublist _ _).subset h)).2

/-- Rows of different groups, each of which stands for itself, are their own distinct rows. -/
theorem distinctRows_eq_self (member : ∀ row ∈ rows, belongs rules groups row = true)
    (apart : rows.Pairwise fun a b => rowGroup rules groups a ≠ rowGroup rules groups b)
    (standing : ∀ row ∈ rows, representative rules groups row = row) :
    (distinctRows rules groups rows).value = rows := by
  rw [distinctRows_value_eq, groupCells, List.filter_eq_self.mpr member,
    cells_of_apart (apart.imp beq_eq_false_iff_ne.mpr), List.map_map, List.map_map]
  exact (List.map_congr_left standing).trans (List.map_id rows)

theorem rowGroup_representative (back : ReadsBack rules groups) (h : belongs rules groups row = true) :
    rowGroup rules groups (representative rules groups row) = rowGroup rules groups row :=
  congrArg groupId (back row h).2

/-- The rows that stand for groups are told apart by what told apart the rows that they stand for. -/
theorem distinctRows_apart (back : ReadsBack rules groups) (rows : List Row) :
    (distinctRows rules groups rows).value.Pairwise fun a b => rowGroup rules groups a ≠ rowGroup rules groups b := by
  rw [distinctRows_value_eq, List.pairwise_map]
  refine (firsts_apart _ _).imp_of_mem fun ha hb apart => ?_
  rw [rowGroup_representative back (belongs_of_mem_firsts ha),
    rowGroup_representative back (belongs_of_mem_firsts hb)]
  exact beq_eq_false_iff_ne.mp apart

theorem distinctRows_cover (back : ReadsBack rules groups) (member : row ∈ rows)
    (h : belongs rules groups row = true) :
    ∃ out ∈ (distinctRows rules groups rows).value, rowGroup rules groups out = rowGroup rules groups row := by
  obtain ⟨first, kept, same⟩ := exists_first (equivalence_of_group rules groups) (List.mem_filter.mpr ⟨member, h⟩)
  rw [distinctRows_value_eq]
  refine ⟨_, List.mem_map_of_mem kept, ?_⟩
  rw [rowGroup_representative back (belongs_of_mem_firsts kept)]
  exact beq_iff_eq.mp same

theorem distinctRows_distinctRows (back : ReadsBack rules groups) (rows : List Row) :
    (distinctRows rules groups (distinctRows rules groups rows).value).value =
      (distinctRows rules groups rows).value := by
  refine distinctRows_eq_self ?_ (distinctRows_apart back rows) ?_
  · rw [distinctRows_value_eq, List.forall_mem_map]
    exact fun row first => (back row (belongs_of_mem_firsts first)).1
  · rw [distinctRows_value_eq, List.forall_mem_map]
    intro row first
    rw [representative, (back row (belongs_of_mem_firsts first)).2]
    rfl

/-- Keeping distinct rows again and again is keeping them once. -/
theorem runSteps_distinct (back : ReadsBack rules groups) (rows : List Row) (n : Nat) :
    let passage := runSteps rules rows (List.replicate (n + 1) (.distinct groups))
    passage.rows = (distinctRows rules groups rows).value ∧ passage.limited = false := by
  induction n generalizing rows with
  | zero => exact ⟨rfl, rfl⟩
  | succ n ih =>
    obtain ⟨last, limited⟩ := ih (distinctRows rules groups rows).value
    rw [List.replicate_succ]
    exact ⟨last.trans (distinctRows_distinctRows back rows), limited⟩

end Groups

section Fields

/-- A field has a value or is absent. -/
theorem isError_field (rules : RegexRules) (row : Row) (path : FieldPath) :
    (evaluate rules row (.field path)).isError = false := by
  rw [evaluate, Row.field]
  cases row.lookup path <;> rfl

theorem belongs_fields (rules : RegexRules) (paths : List FieldPath) (row : Row) :
    belongs rules (paths.map .ofField) row = true := by
  rw [belongs, List.all_map, List.all_eq_true]
  intro path _
  exact congrArg not (isError_field rules row path)

theorem groupKey_field (rules : RegexRules) (row : Row) (path : FieldPath) :
    groupKey rules row (.ofField path) = (row.lookup path).getD .null := by
  rw [groupKey, Assignment.ofField, evaluate, Row.field]
  cases row.lookup path <;> rfl

theorem errorCount_distinct_fields (rules : RegexRules) (paths : List FieldPath) (rows : List Row) :
    errorCount ((Step.distinct (paths.map .ofField)).run rules rows).evaluations = 0 := by
  rw [Step.errorCount_run_eq_faults, Step.faults, List.countP_eq_zero]
  intro row _
  rw [any_isError_eq_not_belongs, belongs_fields]
  decide

theorem errors_distinct_fields (rules : RegexRules) (paths : List FieldPath) (rows : List Row) (n : Nat) :
    (runSteps rules rows (List.replicate n (.distinct (paths.map .ofField)))).errors = 0 := by
  induction n generalizing rows with
  | zero => rfl
  | succ n ih => rw [List.replicate_succ, errors_runSteps_cons, ← Step.errorCount_run, errorCount_distinct_fields, ih]

theorem groupWrites_rowKeys (rules : RegexRules) (groups : List Assignment) (row : Row) :
    groupWrites groups (rowKeys rules groups row) = groups.map fun g => (g.path, groupKey rules row g) :=
  List.zip_map'

/-- A field that was absent is null where its row stands for a group, and a reserved name goes on to mean the identity
of the row. -/
theorem readsBack_fields (rules : RegexRules) (nonempty : ∀ p ∈ paths, p.segments ≠ [])
    (apart : paths.Pairwise FieldPath.Apart) : ReadsBack rules (paths.map .ofField) := by
  intro row _
  refine ⟨belongs_fields rules paths _, ?_⟩
  have own : (paths.map Assignment.ofField).map (·.path) = paths := by
    rw [List.map_map]
    exact List.map_id paths
  have listed := own ▸ groupWrites_sublist (paths.map .ofField) (rowKeys rules (paths.map .ofField) row)
  have reads : (representative rules (paths.map .ofField) row).Reads rules
      (groupWrites (paths.map .ofField) (rowKeys rules (paths.map .ofField) row)) :=
    reads_of_writes rules rfl (fun p hp => nonempty p (listed.subset hp)) (apart.sublist listed)
  rw [rowKeys, rowKeys, List.map_inj_left, List.forall_mem_map]
  intro path hp
  cases reserved : path.synthetic? with
  | none =>
    have member : (path, groupKey rules row (.ofField path)) ∈
        groupWrites (paths.map .ofField) (rowKeys rules (paths.map .ofField) row) := by
      rw [groupWrites_rowKeys, List.map_map]
      exact List.mem_map_of_mem hp
    rw [groupKey, Assignment.ofField, (reads path _ member).2 reserved]
    rfl
  | some field =>
    rw [groupKey_field, groupKey_field, Row.lookup, Row.lookup, reserved]
    cases field <;> rfl

/-- Distinct rows by fields are their own distinct rows by these fields, however often they are made: one for each group
that there was. To read fields adds no errors to those of an evaluator that other steps have used. -/
theorem distinct_fields_idempotent (rules : RegexRules) (rows : List Row) (nonempty : ∀ p ∈ paths, p.segments ≠ [])
    (apart : paths.Pairwise FieldPath.Apart) :
    let step := Step.distinct (paths.map .ofField)
    let group := rowGroup rules (paths.map .ofField)
    let once := step.run rules rows
    let twice := step.run rules once.value
    twice.value = once.value ∧ errorCount once.evaluations = 0 ∧ errorCount twice.evaluations = 0 ∧
      once.value.Pairwise (group · ≠ group ·) ∧ (∀ row ∈ rows, ∃ out ∈ once.value, group out = group row) ∧
      ∀ (evictions : Evictions) (ctx : StageContext) (n : Nat), PatternCache.Sound rules ctx.cache →
        ∃ after : StageContext, after.errors = ctx.errors ∧
          InContext.runSteps evictions rows (List.replicate (n + 1) step) ctx = ((once.value, false), after) := by
  intro step group once twice
  have back : ReadsBack rules (paths.map .ofField) := readsBack_fields rules nonempty apart
  refine ⟨distinctRows_distinctRows back rows, errorCount_distinct_fields rules paths rows,
    errorCount_distinct_fields rules paths once.value, ?_, fun row member => ?_, fun evictions ctx n sound => ?_⟩
  · exact distinctRows_apart back rows
  · exact distinctRows_cover back member (belongs_fields rules paths row)
  · obtain ⟨last, limited⟩ := runSteps_distinct back rows n
    have refined := runSteps_refines evictions rules rows (List.replicate (n + 1) step) ctx sound
    have found : (runSteps rules rows (List.replicate (n + 1) step)).observed.value = (once.value, false) :=
      Prod.ext last limited
    rw [found] at refined
    refine ⟨_, ?_, refined⟩
    rw [ctx.errors_after]
    exact congrArg (ctx.errors + ·) (errors_distinct_fields rules paths rows (n + 1))

/-- A key, a field that one row lacks where another has null, and a field inside a map, with an evaluator that has seen
seven errors. -/
theorem distinct_fields_idempotent_of_key :
    let paths : List FieldPath := [⟨["__name__"]⟩, ⟨["size"]⟩, ⟨["item", "label"]⟩]
    let step := Step.distinct (paths.map .ofField)
    let key : DocumentKey := ⟨⟨["shop", "a"]⟩, by decide⟩
    let row (fields : Fields) : Row := ⟨some key, none, none, ("item", .map [("label", .string "pen")]) :: fields⟩
    let rows := [row [("price", .integer 1)], row [("size", .null)], row [("size", .integer 2)]]
    let ctx : StageContext := { StageContext.fresh 100 with errors := 7 }
    let once := (step.run 100 rows).value
    (∀ p ∈ paths, p.segments ≠ []) ∧ paths.Pairwise FieldPath.Apart ∧ PatternCache.Sound 100 ctx.cache ∧
      once.map (·.key) = [some key, some key] ∧
      (once.map fun row => (row.lookup ⟨["size"]⟩).map Value.canonical) = [some "null", some "2"] ∧
      (step.run 100 once).value = once ∧ ∃ after : StageContext, after.errors = 7 ∧
        InContext.runSteps (default : Evictions) rows (List.replicate 2 step) ctx = ((once, false), after) := by
  intro paths step key row rows ctx once
  have nonempty : ∀ p ∈ paths, p.segments ≠ [] := by decide
  have apart : paths.Pairwise FieldPath.Apart := by decide
  have sound : PatternCache.Sound 100 ctx.cache := PatternCache.sound_empty 100
  have keys : once.map (·.key) = [some key, some key] := by decide +kernel
  have sizes : (once.map fun row => (row.lookup ⟨["size"]⟩).map Value.canonical) = [some "null", some "2"] := by
    decide +kernel
  obtain ⟨same, -, -, -, -, again⟩ := distinct_fields_idempotent 100 rows nonempty apart
  exact ⟨nonempty, apart, sound, keys, sizes, same, again default ctx 1 sound⟩

end Fields
end DocQuery
