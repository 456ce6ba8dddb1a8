import DocQuery.Proofs.Pipeline.Sorting

/-! Filtering before and after a sort. Where the values of different rows can be compared, a sort leaves the rows
that a condition keeps in the order that it would have given them on their own. -/
namespace DocQuery

variable {rules : RegexRules} {keys : List SortKey} {rows : List Row}

theorem filterRows_sortRows (condition : Condition) (h : rows.Pairwise fun a b => a.comparable rules keys b) :
    (filterRows rules condition (sortRows rules keys rows).value).value =
      (sortRows rules keys (filterRows rules condition rows).value).value := by
  have := transCmp_rowOrder h
  let keeps (row : Row) : Bool := (evaluate rules row condition.toExpr).isTrue
  have kept : (rows.attach.filter (keeps ·.1)).map (·.1) = rows.filter keeps := by
    have mapped := List.filter_map (p := keeps) (f := Subtype.val) (l := rows.attach)
    rw [List.attach_map_subtype_val] at mapped
    exact mapped.symm
  calc
    (filterRows rules condition (sortRows rules keys rows).value).value
      = (sortRows rules keys rows).value.filter keeps := filterRows_value ..
    _ = ((mergeHalves (fun a b : { row // row ∈ rows } => rowOrder rules keys a.1 b.1 == .lt) rows.attach).filter
          (keeps ·.1)).map (·.1) := by
        rw [sortRows_attach, List.filter_map]
        rfl
    _ = (mergeHalves (fun a b : { row // row ∈ rows } => rowOrder rules keys a.1 b.1 == .lt)
          (rows.attach.filter (keeps ·.1))).map (·.1) := by rw [filter_mergeHalves]
    _ = (sortRows rules keys (rows.filter keeps)).value := by rw [← sortRows_map_val, kept]
    _ = (sortRows rules keys (filterRows rules condition rows).value).value := by rw [filterRows_value]

/-- Sorting and then filtering comes to the same as filtering first, whatever comes after them, if the rows that are
sorted can be compared. -/
theorem runSteps_sort_filter (rules : RegexRules) (condition : Condition) (later : List Step)
    (h : rows.Pairwise fun a b => a.comparable rules keys b) :
    let first := runSteps rules rows (.sort keys :: .filter condition :: later)
    let second := runSteps rules rows (.filter condition :: .sort keys :: later)
    first.rows = second.rows ∧ first.limited = second.limited := by
  intro first second
  have same : ((Step.filter condition).run rules ((Step.sort keys).run rules rows).value).value =
      ((Step.sort keys).run rules ((Step.filter condition).run rules rows).value).value :=
    filterRows_sortRows condition h
  exact ⟨congrArg (fun rows => (runSteps rules rows later).rows) same,
    congrArg (fun rows => (runSteps rules rows later).limited) same⟩

/-- Two rows of one document and two of none tie in pairs, and a missing value comes last in descending order too. -/
theorem runSteps_sort_filter_of_ties :
    let row (key : Option DocumentKey) (fields : Fields) : Row := ⟨key, none, none, fields⟩
    let a : Option DocumentKey := some ⟨⟨["shop", "a"]⟩, by decide⟩
    let keys : List SortKey := [⟨.field ⟨["age"]⟩, .descending⟩]
    let sold : Condition := ⟨.connective .and, [.field ⟨["sold"]⟩], rfl⟩
    let rows := [row none [("sold", .boolean true), ("n", .integer 1)],
      row a [("age", .integer 2), ("sold", .boolean true), ("n", .integer 2)],
      row none [("age", .double (.ofBits 0x4000000000000000)), ("sold", .boolean true), ("n", .integer 3)],
      row none [("age", .integer 3), ("sold", .boolean false)],
      row a [("age", .double (.ofBits 0x4000000000000000)), ("sold", .boolean true), ("n", .integer 4)],
      row none [("age", .integer 2), ("sold", .boolean true), ("n", .integer 5)]]
    let first := runSteps 100 rows [.sort keys, .filter sold]
    let second := runSteps 100 rows [.filter sold, .sort keys]
    (rows.Pairwise fun a b => a.comparable 100 keys b) ∧ first.rows = second.rows ∧
      first.limited = second.limited := by
  intro row a keys sold rows first second
  have comparable : rows.Pairwise fun a b => a.comparable 100 keys b := by decide +kernel
  exact ⟨comparable, runSteps_sort_filter 100 sold [] comparable⟩

end DocQuery
