import DocQuery.Proofs.Pipeline.Aliases
import DocQuery.Proofs.Pipeline.Identity

/-! Projections row by row. All expressions of a projection see the row as it came, whatever the aliases beside them
write, and nothing apart from what is written changes. -/
namespace DocQuery

/-- A row as a projection leaves it, in terms of the row as it came and of what there is to be found where nothing is
written. -/
structure Row.Projected (rules : RegexRules) (assignments : List Assignment) (elsewhere : FieldPath → Option Value)
    (before after : Row) : Prop where
  identity : after.identity = before.identity
  assigned : ∀ a ∈ assignments, ∀ v, evaluate rules before a.expr = .value v →
    getField after.fields a.path.segments = some v
  unset : ∀ a ∈ assignments, (evaluate rules before a.expr).value? = none →
    getField after.fields a.path.segments = elsewhere a.path
  apart : ∀ p : FieldPath, (∀ a ∈ assignments, (evaluate rules before a.expr).value? ≠ none → a.path.Apart p) →
    getField after.fields p.segments = elsewhere p

section Projections

variable {rules : RegexRules} {assignments : List Assignment} {start : Fields} {before after : Row}

theorem mem_assigned {path : FieldPath} {v : Value} : (path, v) ∈ assigned rules assignments before ↔
    ∃ a ∈ assignments, (evaluate rules before a.expr).value? = some v ∧ a.path = path := by
  rw [assigned, List.mem_filterMap]
  refine exists_congr fun a => and_congr_right fun _ => ?_
  rw [Option.map_eq_some_iff]
  constructor
  · rintro ⟨_, value, same⟩
    cases same
    exact ⟨value, rfl⟩
  · rintro ⟨value, rfl⟩
    exact ⟨v, value, rfl⟩

/-- Writing what the assignments came to makes a projection out of any fields. -/
theorem Row.projected_of_writes (identity : after.identity = before.identity)
    (fields : after.fields = writeFields start (assigned rules assignments before))
    (nonempty : ∀ a ∈ assignments, a.path.segments ≠ [])
    (apart : assignments.Pairwise fun a b => a.path.Apart b.path) :
    Row.Projected rules assignments (fun p => getField start p.segments) before after := by
  have kept (p : FieldPath)
      (h : ∀ a ∈ assignments, (evaluate rules before a.expr).value? ≠ none → a.path.Apart p) :
      getField after.fields p.segments = getField start p.segments := by
    rw [fields]
    refine getField_writeFields_apart start fun w hw => ?_
    obtain ⟨a, ha, value, path⟩ := mem_assigned.mp hw
    exact path ▸ h a ha (by simp [value])
  refine ⟨identity, fun a ha v value => ?_, fun a ha unset => kept a.path fun b hb set => ?_, kept⟩
  · have writes_apart : (assigned rules assignments before).Pairwise fun w u => w.1.Apart u.1 :=
      List.pairwise_map.mp ((List.pairwise_map.mpr apart).sublist (assigned_sublist rules assignments before))
    rw [fields]
    exact getField_writeFields start writes_apart (mem_assigned.mpr ⟨a, ha, by rw [value]; rfl, rfl⟩) (nonempty a ha)
  · have : Std.Symm fun a b : Assignment => a.path.Apart b.path := ⟨fun _ _ => FieldPath.Apart.symm⟩
    refine apart.forall hb ha ?_
    rintro rfl
    exact set unset

/-- A projection deals with each row by itself and leaves the rows where they are. -/
theorem projections_frame (rules : RegexRules) (rows : List Row) (nonempty : ∀ a ∈ assignments, a.path.segments ≠ [])
    (apart : assignments.Pairwise fun a b => a.path.Apart b.path) :
    List.Forall₂ (Row.Projected rules assignments fun _ => none) rows ((Step.select assignments).run rules rows).value ∧
      List.Forall₂ (fun before => Row.Projected rules assignments (fun p => getField before.fields p.segments) before)
        rows ((Step.addFields assignments).run rules rows).value := by
  simp only [Step.run, each_value, List.forall₂_map_right_iff, List.forall₂_same]
  refine ⟨fun before _ => ?_, fun before _ => ?_⟩
  · have nothing : (fun p : FieldPath => getField [] p.segments) = fun _ => none :=
      funext fun p => getField_nil p.segments
    rw [← nothing]
    exact Row.projected_of_writes rfl (congrArg (writeFields []) (readWrites_value rules assignments before)) nonempty
      apart
  · exact Row.projected_of_writes rfl (congrArg (writeFields before.fields) (readWrites_value rules assignments before))
      nonempty apart

/-- Two fields that trade values, one of them inside a map, next to a fault and a field that is not there. -/
theorem projections_frame_of_exchange :
    let quotient : Expr := .call (.arithmetic .divide) [.field ⟨["a"]⟩, .constant (.integer 0)]
    let assignments : List Assignment :=
      [⟨⟨["a"]⟩, .field ⟨["b", "c"]⟩⟩, ⟨⟨["b", "c"]⟩, .field ⟨["a"]⟩⟩, ⟨⟨["b", "d"]⟩, quotient⟩,
        ⟨⟨["e"]⟩, .field ⟨["missing"]⟩⟩]
    let fields : Fields := [("e", .null), ("a", .integer 1), ("b", .map [("c", .integer 2), ("d", .integer 3)])]
    let key : DocumentKey := ⟨⟨["shop", "a"]⟩, by decide⟩
    let before : Row := ⟨some key, none, none, fields⟩
    (∀ a ∈ assignments, a.path.segments ≠ []) ∧ (assignments.Pairwise fun a b => a.path.Apart b.path) ∧
      ∃ selected added, ((Step.select assignments).run 100 [before]).value = [selected] ∧
        ((Step.addFields assignments).run 100 [before]).value = [added] ∧ selected.key = some key ∧
        getField selected.fields ["a"] = some (.integer 2) ∧ getField added.fields ["b", "c"] = some (.integer 1) ∧
        getField selected.fields ["b", "d"] = none ∧ getField added.fields ["b", "d"] = some (.integer 3) ∧
        getField selected.fields ["e"] = none ∧ getField added.fields ["e"] = some .null := by
  intro quotient assignments fields key before
  have nonempty : ∀ a ∈ assignments, a.path.segments ≠ [] := by decide
  have apart : assignments.Pairwise fun a b => a.path.Apart b.path := by decide
  obtain ⟨selects, adds⟩ := projections_frame 100 [before] nonempty apart
  have one : ((Step.select assignments).run 100 [before]).value = [(selectFields 100 assignments before).value] := rfl
  have other : ((Step.addFields assignments).run 100 [before]).value = [(addFields 100 assignments before).value] := rfl
  rw [one] at selects
  rw [other] at adds
  obtain ⟨selected, _⟩ := List.forall₂_cons.mp selects
  obtain ⟨added, _⟩ := List.forall₂_cons.mp adds
  have a_mem : assignments[0] ∈ assignments := List.getElem_mem _
  have c_mem : assignments[1] ∈ assignments := List.getElem_mem _
  have d_mem : assignments[2] ∈ assignments := List.getElem_mem _
  have e_mem : assignments[3] ∈ assignments := List.getElem_mem _
  refine ⟨nonempty, apart, _, _, one, other, congrArg Identity.key selected.identity, ?_⟩
  exact ⟨selected.assigned _ a_mem _ rfl, added.assigned _ c_mem _ rfl, selected.unset _ d_mem rfl,
    added.unset _ d_mem rfl, selected.unset _ e_mem rfl, added.unset _ e_mem rfl⟩

end Projections
end DocQuery
