import DocQuery.Proofs.Pipeline.Partition
import DocQuery.Proofs.Value.References
import DocQuery.Regex.Library

/-! Which rows are of one group. The texts of keys tell groups apart, so rows are of one group if their keys tie
one by one, and only then, unless a reference in a key has a text that does not show where it ends. -/
namespace DocQuery

/-- Whether the keys of two rows tie one by one. -/
def tiedKeys (rules : RegexRules) (groups : List Assignment) (a b : Row) : Bool :=
  groups.all fun g => (groupKey rules a g).order (groupKey rules b g) == .eq

/-- The cells of the rows that belong to groups, by ties of their keys. -/
def tiedCells (rules : RegexRules) (groups : List Assignment) (rows : List Row) : List (Cell Row) :=
  cells (tiedKeys rules groups) (rows.filter (belongs rules groups))

/-- The references in the keys of a row are read from texts, none of which holds the end of a reference. -/
def Row.ClearKeys (rules : RegexRules) (groups : List Assignment) (row : Row) : Prop :=
  ∀ v ∈ rowKeys rules groups row, ∀ key ∈ v.references, key.Parsed ∧ key.Contained

instance (rules : RegexRules) (groups : List Assignment) (row : Row) : Decidable (row.ClearKeys rules groups) :=
  inferInstanceAs (Decidable (∀ v ∈ rowKeys rules groups row, ∀ key ∈ v.references, key.Parsed ∧ key.Contained))

variable {rules : RegexRules} {groups : List Assignment} {rows : List Row} {a b : Row}

theorem tiedKeys_iff : tiedKeys rules groups a b = true ↔
    List.Forall₂ (fun v w => v.order w = .eq) (rowKeys rules groups a) (rowKeys rules groups b) := by
  rw [rowKeys, rowKeys, forall₂_map_map, List.forall₂_same, tiedKeys, List.all_eq_true]
  simp only [beq_iff_eq]

theorem equivalence_of_ties (rules : RegexRules) (groups : List Assignment) :
    Equivalence fun a b => tiedKeys rules groups a b = true := by
  simp only [tiedKeys, List.all_eq_true, beq_iff_eq]
  exact {
    refl := fun a g _ => Std.ReflCmp.compare_self
    symm := fun h g hg => Std.OrientedCmp.eq_symm (h g hg)
    trans := fun h h' g hg => Std.TransCmp.eq_trans (h g hg) (h' g hg) }

theorem rowGroup_eq_iff_tied (ha : a.ClearKeys rules groups) (hb : b.ClearKeys rules groups) :
    rowGroup rules groups a = rowGroup rules groups b ↔ tiedKeys rules groups a b = true := by
  rw [tiedKeys_iff]
  constructor
  · intro same
    have ends : EndsMember [] := by simp [EndsMember]
    exact order_of_groupId follows_endsMember ends DocumentKey.readable_contained ha hb same
  · intro ties
    exact groupId_congr (ties.imp fun _ _ => Value.canonical_congr)

theorem groupCells_eq_tiedCells (clear : ∀ row ∈ rows.filter (belongs rules groups), row.ClearKeys rules groups) :
    groupCells rules groups rows = tiedCells rules groups rows := by
  refine cells_congr fun a ha b hb => ?_
  rw [Bool.eq_iff_iff, beq_iff_eq]
  exact rowGroup_eq_iff_tied (clear a ha) (clear b hb)

/-- Without group expressions all rows tie. -/
theorem tiedCells_nil (rules : RegexRules) (row : Row) (rows : List Row) :
    tiedCells rules [] (row :: rows) = [⟨row, rows⟩] := by
  rw [tiedCells, filter_belongs_nil]
  exact cells_of_same fun _ _ => rfl

/-- The groups of the totals are those of ties, and that of no rows where there are neither rows nor keys. -/
theorem groupParts_eq_tiedCells (clear : ∀ row ∈ rows.filter (belongs rules groups), row.ClearKeys rules groups) :
    groupParts rules groups rows = if groups.isEmpty && rows.isEmpty then [([], [])]
      else (tiedCells rules groups rows).map fun cell => (rowKeys rules groups cell.first, cell.members) := by
  cases groups with
  | nil =>
    cases rows with
    | nil => rfl
    | cons row rows =>
      rw [tiedCells_nil]
      rfl
  | cons g gs =>
    rw [← groupCells_eq_tiedCells clear]
    rfl

/-- Rows share a row of the results, of distinct keys or of totals, if their keys tie one by one, and only then. -/
theorem groups_of_tied_keys (accumulators : List Accumulator)
    (clear : ∀ row ∈ rows.filter (belongs rules groups), row.ClearKeys rules groups) :
    let kept := rows.filter (belongs rules groups)
    (distinctRows rules groups rows).value = (tiedCells rules groups rows).map (distinctRow rules groups) ∧
      (aggregateRows rules groups accumulators rows).value =
        (if groups.isEmpty && rows.isEmpty then [totalsRow rules [] accumulators [] []]
        else (tiedCells rules groups rows).map fun cell =>
          totalsRow rules groups accumulators (rowKeys rules groups cell.first) cell.members) ∧
      ((tiedCells rules groups rows).flatMap Cell.members).Perm kept ∧
      ∀ a ∈ kept, ∀ b ∈ kept, (∃ cell ∈ tiedCells rules groups rows, a ∈ cell.members ∧ b ∈ cell.members) ↔
        List.Forall₂ (fun v w => v.order w = .eq) (rowKeys rules groups a) (rowKeys rules groups b) := by
  intro kept
  refine ⟨?_, ?_, cells_perm _ _, ?_⟩
  · rw [distinctRows_eq, groupCells_eq_tiedCells clear]
  · rw [aggregateRows_eq, groupParts_eq_tiedCells clear]
    cases none : groups.isEmpty && rows.isEmpty with
    | false => simp only [Bool.false_eq_true, if_false, List.map_map, Function.comp_def]
    | true =>
      rw [Bool.and_eq_true, List.isEmpty_iff] at none
      rw [if_pos rfl, if_pos rfl, none.1]
      rfl
  · intro a ha b hb
    rw [← tiedKeys_iff]
    exact share_cell_iff (equivalence_of_ties rules groups) ha hb

/-- Numbers in two spellings, and paths with parentheses. -/
theorem groups_of_parenthesised_references :
    let row (name : String) (n : Value) : Row :=
      .ofFields [("report", .reference ⟨⟨["shop", name]⟩, by simp [ResourcePath.length]⟩), ("n", n)]
    let groups : List Assignment := [.ofField ⟨["report"]⟩, .ofField ⟨["n"]⟩]
    let count : Accumulator := ⟨⟨["count"]⟩, .count, []⟩
    let a := row "old (1)" (.integer 1)
    let b := row "old" (.integer 1)
    let c := row "old (1)" (.double .one)
    let rows := [a, b, c]
    (∀ row ∈ rows.filter (belongs 100 groups), row.ClearKeys 100 groups) ∧
      tiedCells 100 groups rows = [⟨a, [c]⟩, ⟨b, []⟩] ∧
      (distinctRows 100 groups rows).value = [distinctRow 100 groups ⟨a, [c]⟩, distinctRow 100 groups ⟨b, []⟩] ∧
      (aggregateRows 100 groups [count] rows).value =
        [totalsRow 100 groups [count] (rowKeys 100 groups a) [a, c],
          totalsRow 100 groups [count] (rowKeys 100 groups b) [b]] := by
  intro row groups count a b c rows
  have clear : ∀ row ∈ rows.filter (belongs 100 groups), row.ClearKeys 100 groups := by decide +kernel
  have kept : rows.filter (belongs 100 groups) = rows := List.filter_eq_self.mpr (by decide +kernel)
  have apart : tiedKeys 100 groups a b = false := by decide +kernel
  have tied : tiedKeys 100 groups a c = true := by decide +kernel
  have split : tiedCells 100 groups rows = [⟨a, [c]⟩, ⟨b, []⟩] := by
    rw [tiedCells, kept]
    simp [rows, cells, apartFrom, apart, tied]
  have shared := groups_of_tied_keys [count] clear
  rw [split] at shared
  exact ⟨clear, split, shared.1, shared.2.1⟩

/-- Where a path does hold the end of a reference, keys that differ can have one text. -/
theorem groups_of_colliding_references :
    let reference (path : String) : Value := ((DocumentKey.parse? path).map Value.reference).getD .null
    let row (a b : String) : Row := .ofFields [("a", reference a), ("b", reference b)]
    let groups : List Assignment := [.ofField ⟨["a"]⟩, .ofField ⟨["b"]⟩]
    let rows := [row "a/b),ref(c" "d/e", row "a/b" "c),ref(d/e"]
    rows.all (belongs 100 groups) ∧ (distinctRows 100 groups rows).value.length = 1 ∧
      (aggregateRows 100 groups [] rows).value.length = 1 ∧
      ¬ List.Forall₂ (fun v w => v.order w = .eq) (rowKeys 100 groups rows[0]) (rowKeys 100 groups rows[1]) := by
  simp only [← tiedKeys_iff]
  decide +kernel

end DocQuery
