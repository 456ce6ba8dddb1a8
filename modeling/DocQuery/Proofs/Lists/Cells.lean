import Mathlib.Data.Finset.Card

/-! Partitions of lists into cells. Cells come in order of first appearance, and the members of a cell in the
order of the list. -/
namespace DocQuery

/-- A cell has a first member. -/
structure Cell (α : Type) where
  first : α
  others : List α

def Cell.members (cell : Cell α) : List α := cell.first :: cell.others

/-- The items that are not the same as one of them. -/
def apartFrom (same : α → α → Bool) (a : α) (items : List α) : List α := items.filter fun b => !same a b

/-- The cells of items by a relation: each item goes with the first that it is the same as. -/
def cells (same : α → α → Bool) : List α → List (Cell α)
  | [] => []
  | a :: rest => ⟨a, rest.filter (same a)⟩ :: cells same (apartFrom same a rest)
termination_by items => items.length
decreasing_by exact Nat.lt_succ_of_le (List.length_filter_le _ _)

variable {α : Type} {same same' : α → α → Bool} {items : List α} {a b : α}

theorem mem_apartFrom : b ∈ apartFrom same a items ↔ b ∈ items ∧ same a b = false := by
  simp only [apartFrom, List.mem_filter, Bool.not_eq_true']

/-- Every item is in a cell, and in one only. -/
theorem cells_perm (same : α → α → Bool) (items : List α) :
    ((cells same items).flatMap Cell.members).Perm items := by
  fun_induction cells same items with
  | case1 => exact .nil
  | case2 a rest ih =>
    have split : (rest.filter (same a) ++ apartFrom same a rest).Perm rest :=
      List.filter_append_perm (same a) rest
    exact ((ih.append_left _).trans split).cons a

theorem cells_congr (agree : ∀ a ∈ items, ∀ b ∈ items, same a b = same' a b) :
    cells same items = cells same' items := by
  fun_induction cells same items with
  | case1 => rw [cells]
  | case2 a rest ih =>
    have first : ∀ b ∈ rest, same a b = same' a b := fun b hb =>
      agree a List.mem_cons_self b (List.mem_cons_of_mem a hb)
    have others : apartFrom same a rest = apartFrom same' a rest :=
      List.filter_congr fun b hb => congrArg not (first b hb)
    have later := ih fun b hb c hc => agree b (List.mem_cons_of_mem a (mem_apartFrom.mp hb).1)
      c (List.mem_cons_of_mem a (mem_apartFrom.mp hc).1)
    rw [cells, List.filter_congr first, later, others]

theorem cells_of_same (all : ∀ b ∈ items, same a b = true) : cells same (a :: items) = [⟨a, items⟩] := by
  have none : apartFrom same a items = [] := by
    simpa [apartFrom] using all
  rw [cells, none, cells, List.filter_eq_self.mpr all]

theorem first_mem_of_mem_cells {cell : Cell α} (h : cell ∈ cells same items) : cell.first ∈ items :=
  (cells_perm same items).mem_iff.mp (List.mem_flatMap.mpr ⟨cell, h, List.mem_cons_self⟩)

/-- The first members stand in the order of the items. -/
theorem firsts_sublist (same : α → α → Bool) (items : List α) :
    ((cells same items).map Cell.first).Sublist items := by
  fun_induction cells same items with
  | case1 => exact .slnil
  | case2 a rest ih => exact (ih.trans List.filter_sublist).cons_cons a

/-- No first member is the same as an earlier one. -/
theorem firsts_apart (same : α → α → Bool) (items : List α) :
    ((cells same items).map Cell.first).Pairwise fun a b => same a b = false := by
  fun_induction cells same items with
  | case1 => exact .nil
  | case2 a rest ih =>
    refine .cons (fun b later => ?_) ih
    exact (mem_apartFrom.mp ((firsts_sublist same _).subset later)).2

/-- Items that are all apart are cells of their own. -/
theorem cells_of_apart (apart : items.Pairwise fun a b => same a b = false) :
    cells same items = items.map fun a => ⟨a, []⟩ := by
  induction items with
  | nil => rw [cells, List.map_nil]
  | cons a rest ih =>
    obtain ⟨first, others⟩ := List.pairwise_cons.mp apart
    have none : rest.filter (same a) = [] := List.filter_eq_nil_iff.mpr fun b hb => by simp [first b hb]
    have all : apartFrom same a rest = rest := List.filter_eq_self.mpr fun b hb => by simp [first b hb]
    rw [cells, none, all, ih others, List.map_cons]

section Equivalence

variable (equivalence : Equivalence fun a b => same a b = true)

include equivalence

/-- The cell of an item holds all items that are the same. -/
theorem members_of_mem_cells {cell : Cell α} (h : cell ∈ cells same items) :
    cell.members = items.filter (same cell.first) := by
  fun_induction cells same items with
  | case1 => contradiction
  | case2 a rest ih =>
    rcases List.mem_cons.mp h with rfl | later
    · rw [Cell.members, List.filter_cons_of_pos (equivalence.refl a)]
    · have apart : same a cell.first = false := (mem_apartFrom.mp (first_mem_of_mem_cells later)).2
      have away : ¬ same cell.first a = true := fun tie => by
        simp [equivalence.symm tie] at apart
      -- an item like the first of a later cell is not like `a`, so none is lost with those that are
      rw [ih later, apartFrom, List.filter_filter, List.filter_cons_of_neg away]
      refine List.filter_congr fun b _ => ?_
      cases tie : same cell.first b with
      | false => rfl
      | true =>
        have other : same a b = false := Bool.eq_false_iff.mpr fun both => by
          simp [equivalence.trans both (equivalence.symm tie)] at apart
        simp [other]

/-- Every item is the same as a first member. -/
theorem exists_first (h : a ∈ items) : ∃ first ∈ (cells same items).map Cell.first, same first a = true := by
  obtain ⟨cell, member, inside⟩ := List.mem_flatMap.mp ((cells_perm same items).mem_iff.mpr h)
  rw [members_of_mem_cells equivalence member] at inside
  exact ⟨cell.first, List.mem_map_of_mem member, (List.mem_filter.mp inside).2⟩

/-- Items share a cell if they are the same, and only then. -/
theorem share_cell_iff (ha : a ∈ items) (hb : b ∈ items) :
    (∃ cell ∈ cells same items, a ∈ cell.members ∧ b ∈ cell.members) ↔ same a b = true := by
  constructor
  · rintro ⟨cell, member, left, right⟩
    rw [members_of_mem_cells equivalence member] at left right
    have first := (List.mem_filter.mp left).2
    exact equivalence.trans (equivalence.symm first) (List.mem_filter.mp right).2
  · intro tie
    obtain ⟨cell, member, left⟩ := List.mem_flatMap.mp ((cells_perm same items).mem_iff.mpr ha)
    refine ⟨cell, member, left, ?_⟩
    rw [members_of_mem_cells equivalence member] at left ⊢
    exact List.mem_filter.mpr ⟨hb, equivalence.trans (List.mem_filter.mp left).2 tie⟩

end Equivalence
end DocQuery
