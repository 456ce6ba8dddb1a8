import DocQuery.Proofs.Document.Reading
import DocQuery.Proofs.Pipeline.Partition
import DocQuery.Proofs.Pipeline.Results

/-! What a step writes under an alias is what the next step reads there. Under a reserved name it is stored too, but
fields of that name go on to mean the identity of the row. -/
namespace DocQuery

variable {rules : RegexRules} {rows : List Row} {out : Row} {start : Fields} {writes : List (FieldPath × Value)}

/-- What assignments have for a row, where that is a value. -/
def assigned (rules : RegexRules) (assignments : List Assignment) (row : Row) : List (FieldPath × Value) :=
  assignments.filterMap fun a => (evaluate rules row a.expr).value?.map (a.path, ·)

/-- The keys of a group under their aliases. -/
def groupWrites (groups : List Assignment) (keys : List Value) : List (FieldPath × Value) :=
  (groups.map (·.path)).zip keys

/-- The totals of rows under their aliases. -/
def totalWrites (rules : RegexRules) (accumulators : List Accumulator) (rows : List Row) : List (FieldPath × Value) :=
  accumulators.map fun a => (a.path, totalOver rules rows a)

namespace Step

/-- The paths that a step names its results by. -/
def aliases : Step → List FieldPath
  | addFields fields | select fields => fields.map (·.path)
  | distinct groups => groups.map (·.path)
  | aggregate groups accumulators => groups.map (·.path) ++ accumulators.map (·.path)
  | _ => []

/-- What a step computes for its aliases, for each of the rows that it makes; nothing where it has no aliases. -/
def computed? (rules : RegexRules) (rows : List Row) : Step → Option (List (List (FieldPath × Value)))
  | addFields fields | select fields => some (rows.map (assigned rules fields))
  | distinct groups =>
    some ((groupCells rules groups rows).map fun cell => groupWrites groups (rowKeys rules groups cell.first))
  | aggregate groups accumulators =>
    some ((groupParts rules groups rows).map fun (keys, members) =>
      groupWrites groups keys ++ totalWrites rules accumulators members)
  | _ => none

end Step

/-- A row has the written values at their paths, and a field of the path evaluates to the value unless its name is
reserved. -/
def Row.Reads (rules : RegexRules) (out : Row) (writes : List (FieldPath × Value)) : Prop :=
  ∀ path v, (path, v) ∈ writes →
    getField out.fields path.segments = some v ∧
      (path.synthetic? = none → evaluate rules out (.field path) = .value v)

theorem reads_of_writes (rules : RegexRules) (fields : out.fields = writeFields start writes)
    (nonempty : ∀ p ∈ writes.map (·.1), p.segments ≠ [])
    (apart : (writes.map (·.1)).Pairwise FieldPath.Apart) : out.Reads rules writes := by
  intro path v member
  rw [List.pairwise_map] at apart
  have stored : getField out.fields path.segments = some v := by
    rw [fields]
    exact getField_writeFields start apart member (nonempty path (List.mem_map_of_mem member))
  refine ⟨stored, fun plain => ?_⟩
  rw [evaluate, Row.field, Row.lookup, plain, stored]

theorem assigned_sublist (rules : RegexRules) (assignments : List Assignment) (row : Row) :
    ((assigned rules assignments row).map (·.1)).Sublist (assignments.map (·.path)) := by
  induction assignments with
  | nil => exact .refl []
  | cons a as ih =>
    rw [assigned, List.filterMap_cons]
    cases (evaluate rules row a.expr).value? with
    | none => exact ih.cons a.path
    | some v => exact ih.cons_cons a.path

theorem groupWrites_sublist (groups : List Assignment) (keys : List Value) :
    ((groupWrites groups keys).map (·.1)).Sublist (groups.map (·.path)) := by
  unfold groupWrites
  generalize groups.map (·.path) = paths
  induction paths generalizing keys with
  | nil => exact .refl []
  | cons p ps ih =>
    cases keys with
    | nil => exact List.nil_sublist _
    | cons v vs => exact (ih vs).cons_cons p

theorem totalsRow_fields (rules : RegexRules) (groups : List Assignment) (accumulators : List Accumulator)
    (keys : List Value) (rows : List Row) : (totalsRow rules groups accumulators keys rows).fields =
      writeFields [] (groupWrites groups keys ++ totalWrites rules accumulators rows) := by
  rw [writeFields, List.foldl_append]
  rfl

/-- What a step computes for its aliases can be read under them in the rows that it makes, one after another, if no
alias leads through another. -/
theorem Step.reads_computed (rules : RegexRules) (rows : List Row) (step : Step)
    (nonempty : ∀ p ∈ step.aliases, p.segments ≠ []) (apart : step.aliases.Pairwise FieldPath.Apart)
    {computed : List (List (FieldPath × Value))} (computes : step.computed? rules rows = some computed) :
    List.Forall₂ (Row.Reads rules) (step.run rules rows).value computed := by
  have written (start : Fields) {out : Row} {writes : List (FieldPath × Value)}
      (fields : out.fields = writeFields start writes) (listed : (writes.map (·.1)).Sublist step.aliases) :
      out.Reads rules writes :=
    reads_of_writes rules fields (fun p hp => nonempty p (listed.subset hp)) (apart.sublist listed)
  cases step with
  | addFields fields =>
    cases computes
    rw [run, each_value, forall₂_map_map, List.forall₂_same]
    intro row _
    have added := congrArg (writeFields row.fields) (readWrites_value rules fields row)
    exact written row.fields added (assigned_sublist rules fields row)
  | select fields =>
    cases computes
    rw [run, each_value, forall₂_map_map, List.forall₂_same]
    intro row _
    have selected := congrArg (writeFields []) (readWrites_value rules fields row)
    exact written [] selected (assigned_sublist rules fields row)
  | distinct groups =>
    cases computes
    rw [run, distinctRows_eq, forall₂_map_map, List.forall₂_same]
    exact fun cell _ => written [] rfl (groupWrites_sublist groups _)
  | aggregate groups accumulators =>
    cases computes
    rw [run, aggregateRows_eq, forall₂_map_map, List.forall₂_same]
    rintro ⟨keys, members⟩ _
    refine written [] (totalsRow_fields rules groups accumulators keys members) ?_
    rw [List.map_append, totalWrites, List.map_map]
    exact (groupWrites_sublist groups keys).append_right _
  | filter | sort | limit | offset | findNearest => contradiction

/-- Values inside one map, and one inside a map under a reserved name. -/
theorem Step.reads_computed_inside_maps :
    let fields : List Assignment := [⟨⟨["item", "cost"]⟩, .field ⟨["price"]⟩⟩,
      ⟨⟨["item", "label"]⟩, .field ⟨["name"]⟩⟩, ⟨⟨["__name__", "part"]⟩, .constant (.integer 2)⟩]
    let row : Row := .ofFields [("name", .string "pen")]
    let writes : List (FieldPath × Value) :=
      [(⟨["item", "label"]⟩, .string "pen"), (⟨["__name__", "part"]⟩, .integer 2)]
    (∀ p ∈ (select fields).aliases, p.segments ≠ []) ∧ (select fields).aliases.Pairwise FieldPath.Apart ∧
      (select fields).computed? 100 [row] = some [writes] ∧
      List.Forall₂ (Row.Reads 100) ((select fields).run 100 [row]).value [writes] := by
  intro fields row writes
  have nonempty : ∀ p ∈ (select fields).aliases, p.segments ≠ [] := by decide
  have apart : (select fields).aliases.Pairwise FieldPath.Apart := by decide
  have computes : (select fields).computed? 100 [row] = some [writes] := rfl
  exact ⟨nonempty, apart, computes, reads_computed 100 [row] (select fields) nonempty apart computes⟩

/-- A value under a reserved name is stored, but a field of that name is still the key of the document. -/
theorem Step.reads_of_reserved_name :
    let key : DocumentKey := ⟨⟨["shop", "a"]⟩, by decide⟩
    let name : FieldPath := ⟨["__name__"]⟩
    let step : Step := .select [⟨name, .constant (.integer 5)⟩]
    let row : Row := ⟨some key, none, none, []⟩
    (∀ p ∈ step.aliases, p.segments ≠ []) ∧ step.aliases.Pairwise FieldPath.Apart ∧
      step.computed? 100 [row] = some [[(name, .integer 5)]] ∧
      ∃ out, (step.run 100 [row]).value = [out] ∧ getField out.fields name.segments = some (.integer 5) ∧
        evaluate 100 out (.field name) = .value (.reference key) ∧
        evaluate 100 out (.field name) ≠ .value (.integer 5) := by
  intro key name step row
  have reference : evaluate 100 ⟨some key, none, none, [("__name__", .integer 5)]⟩ (.field name) =
      .value (.reference key) := rfl
  refine ⟨by decide, by decide, rfl, _, rfl, rfl, reference, fun same => ?_⟩
  cases reference.symm.trans same

end DocQuery
