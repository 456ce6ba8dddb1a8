import Mathlib.Data.List.Chain
import DocQuery.Proofs.Sorting

/-! What sorting by halves leaves behind: of any relation that is never mutual, no neighbours that have to
change places; of a total preorder, the items in order, ties as they came, and nothing to do for a second
sorting. That much determines the list, so that leaving items out can come before sorting or after it. -/
namespace DocQuery

section Merging

variable {le : α → α → Bool} {R : α → α → Prop} {xs ys : List α}

theorem mem_head?_merge {z : α} (h : z ∈ (xs.merge ys le).head?) : z ∈ xs.head? ∨ z ∈ ys.head? := by
  cases xs with
  | nil => exact .inr (by simpa using h)
  | cons x xs =>
    cases ys with
    | nil => exact .inl (by simpa using h)
    | cons y ys =>
      rw [List.cons_merge_cons] at h
      split at h
      · exact .inl h
      · exact .inr h

/-- Two runs without neighbours out of place are merged into one. -/
theorem isChain_merge (left : ∀ x y, le x y → R x y) (right : ∀ x y, ¬ le x y → R y x) (hx : xs.IsChain R)
    (hy : ys.IsChain R) : (xs.merge ys le).IsChain R := by
  induction xs, ys using List.merge.induct le with
  | case1 ys => simpa using hy
  | case2 xs => simpa using hx
  | case3 x xs y ys taken ih =>
    rw [List.cons_merge_cons, if_pos taken, List.isChain_cons]
    have parts := List.isChain_cons.mp hx
    refine ⟨fun z hz => ?_, ih parts.2 hy⟩
    rcases mem_head?_merge hz with next | next
    · exact parts.1 z next
    · cases next
      exact left x y taken
  | case4 x xs y ys taken ih =>
    rw [List.cons_merge_cons, if_neg taken, List.isChain_cons]
    have parts := List.isChain_cons.mp hy
    refine ⟨fun z hz => ?_, ih hx parts.2⟩
    rcases mem_head?_merge hz with next | next
    · cases next
      exact right x y taken
    · exact parts.1 z next

theorem pairwise_merge_of (trans : ∀ x y z, R x y → R y z → R x z) (left : ∀ x y, le x y → R x y)
    (right : ∀ x y, ¬ le x y → R y x) (hx : xs.Pairwise R) (hy : ys.Pairwise R) :
    (xs.merge ys le).Pairwise R := by
  induction xs, ys using List.merge.induct le with
  | case1 ys => simpa using hy
  | case2 xs => simpa using hx
  | case3 x xs y ys taken ih =>
    rw [List.cons_merge_cons, if_pos taken, List.pairwise_cons]
    have parts := List.pairwise_cons.mp hx
    refine ⟨fun z hz => ?_, ih parts.2 hy⟩
    rcases List.mem_merge.mp hz with later | other
    · exact parts.1 z later
    · rcases List.mem_cons.mp other with rfl | later
      · exact left x z taken
      · exact trans x y z (left x y taken) ((List.pairwise_cons.mp hy).1 z later)
  | case4 x xs y ys taken ih =>
    rw [List.cons_merge_cons, if_neg taken, List.pairwise_cons]
    have parts := List.pairwise_cons.mp hy
    refine ⟨fun z hz => ?_, ih hx parts.2⟩
    rcases List.mem_merge.mp hz with other | later
    · rcases List.mem_cons.mp other with rfl | later
      · exact right z y taken
      · exact trans y x z (right x y taken) ((List.pairwise_cons.mp hx).1 z later)
    · exact parts.1 z later

/-- Of the items with a property, those on the left stay in front of those on the right. -/
theorem filter_merge (p : α → Bool) (hx : xs.Pairwise R)
    (passed : ∀ x y, ¬ le x y → p y → ∀ z, z = x ∨ R x z → p z = false) :
    (xs.merge ys le).filter p = xs.filter p ++ ys.filter p := by
  induction xs, ys using List.merge.induct le with
  | case1 ys => simp
  | case2 xs => simp
  | case3 x xs y ys taken ih =>
    have rest := ih (List.pairwise_cons.mp hx).2
    rw [List.cons_merge_cons, if_pos taken]
    by_cases holds : p x
    · rw [List.filter_cons_of_pos holds, List.filter_cons_of_pos holds, rest, List.cons_append]
    · rw [List.filter_cons_of_neg holds, List.filter_cons_of_neg holds, rest]
  | case4 x xs y ys taken ih =>
    have rest := ih hx
    rw [List.cons_merge_cons, if_neg taken]
    by_cases holds : p y
    · have none : (x :: xs).filter p = [] := by
        rw [List.filter_eq_nil_iff]
        intro z hz
        have related : z = x ∨ R x z := (List.mem_cons.mp hz).imp_right ((List.pairwise_cons.mp hx).1 z)
        simp [passed x y taken holds z related]
      rw [List.filter_cons_of_pos holds, List.filter_cons_of_pos holds, rest, none, List.nil_append,
        List.nil_append]
    · rw [List.filter_cons_of_neg holds, List.filter_cons_of_neg holds, rest]

end Merging

section Sorting

variable {before : α → α → Bool} {R : α → α → Prop}

theorem mergeHalves_isChain (asymm : ∀ x y, before x y → ¬ before y x) (items : List α) :
    (mergeHalves before items).IsChain fun x y => ¬ before y x := by
  fun_induction mergeHalves before items with
  | case1 items short =>
    rcases items with _ | ⟨x, _ | ⟨y, rest⟩⟩
    · exact .nil
    · exact .singleton x
    · contradiction
  | case2 items _ first second =>
    refine isChain_merge (fun x y taken => ?_) (fun x y taken => ?_) first second
    · simpa using taken
    · exact asymm y x (by simpa using taken)

theorem mergeHalves_pairwise (trans : ∀ x y z, R x y → R y z → R x z) (stays : ∀ x y, ¬ before y x → R x y)
    (turns : ∀ x y, before x y → R x y) (items : List α) : (mergeHalves before items).Pairwise R := by
  fun_induction mergeHalves before items with
  | case1 items short =>
    rcases items with _ | ⟨x, _ | ⟨y, rest⟩⟩
    · exact .nil
    · exact List.pairwise_singleton R x
    · contradiction
  | case2 items _ first second =>
    refine pairwise_merge_of trans (fun x y taken => ?_) (fun x y taken => ?_) first second
    · exact stays x y (by simpa using taken)
    · exact turns y x (by simpa using taken)

/-- Items that are in order are left alone. -/
theorem mergeHalves_of_pairwise {items : List α} (h : items.Pairwise fun x y => ¬ before y x) :
    mergeHalves before items = items := by
  fun_induction mergeHalves before items with
  | case1 => rfl
  | case2 items _ first second =>
    have whole := items.take_append_drop (items.length / 2)
    rw [← whole] at h
    obtain ⟨left, right, across⟩ := List.pairwise_append.mp h
    rw [first left, second right, List.merge_of_le, whole]
    intro x y hx hy
    simpa using across x hx y hy

end Sorting

section Stable

variable {cmp : α → α → Ordering} [Std.TransCmp cmp]

theorem mergeHalves_sorted (items : List α) :
    (mergeHalves (fun x y => cmp x y == .lt) items).Pairwise fun x y => (cmp x y).isLE := by
  refine mergeHalves_pairwise (fun _ _ _ => Std.TransCmp.isLE_trans) (fun x y h => ?_) (fun x y h => ?_) items
  · rw [@Std.OrientedCmp.eq_swap _ cmp]
    cases o : cmp y x <;> simp_all
  · simp_all

/-- Ties keep their order. -/
theorem mergeHalves_filter_ties (a : α) (items : List α) :
    (mergeHalves (fun x y => cmp x y == .lt) items).filter (fun x => cmp a x == .eq) =
      items.filter fun x => cmp a x == .eq := by
  fun_induction mergeHalves (fun x y => cmp x y == .lt) items with
  | case1 => rfl
  | case2 items _ first second =>
    have passed (x y : α) (taken : ¬ (!cmp y x == .lt) = true) (tie : (cmp a y == .eq) = true) (z : α)
        (later : z = x ∨ (cmp x z).isLE) : (cmp a z == .eq) = false := by
      have less : cmp y x = .lt := by simpa using taken
      have reached : (cmp x z).isLE := by
        rcases later with rfl | later
        · rw [@Std.ReflCmp.compare_self _ cmp]
          rfl
        · exact later
      have beyond : cmp a z = .lt := by
        have alike : cmp a z = cmp y z := Std.TransCmp.congr_left (by simpa using tie)
        exact alike.trans (Std.TransCmp.lt_of_lt_of_isLE less reached)
      simp [beyond]
    have whole := items.take_append_drop (items.length / 2)
    rw [filter_merge _ (mergeHalves_sorted _) passed, first, second, ← List.filter_append, whole]

theorem mergeHalves_stable {ties items : List α} (h : ties.Sublist items)
    (tied : ties.Pairwise fun x y => cmp x y = .eq) :
    ties.Sublist (mergeHalves (fun x y => cmp x y == .lt) items) := by
  cases ties with
  | nil => exact List.nil_sublist _
  | cons a rest =>
    have all : (a :: rest).filter (fun x => cmp a x == .eq) = a :: rest := by
      refine List.filter_eq_self.mpr fun x hx => ?_
      rcases List.mem_cons.mp hx with rfl | hx
      · simp [@Std.ReflCmp.compare_self _ cmp]
      · simp [(List.pairwise_cons.mp tied).1 x hx]
    have same : (mergeHalves (fun x y => cmp x y == .lt) items).filter (fun x => cmp a x == .eq) =
        items.filter fun x => cmp a x == .eq := mergeHalves_filter_ties a items
    rw [← all]
    refine (h.filter _).trans ?_
    rw [← same]
    exact List.filter_sublist

section Uniqueness

variable {x y : α} {xs ys : List α}

theorem isLE_head (h : (x :: xs).Pairwise fun x y => (cmp x y).isLE) (hy : y ∈ x :: xs) : (cmp x y).isLE := by
  rcases List.mem_cons.mp hy with rfl | hy
  · exact Std.ReflCmp.isLE_rfl
  · exact (List.pairwise_cons.mp h).1 y hy

theorem mem_of_ties (ties : ∀ a, xs.filter (fun x => cmp a x == .eq) = ys.filter fun x => cmp a x == .eq)
    (hx : x ∈ xs) : x ∈ ys := by
  have tie : x ∈ xs.filter fun y => cmp x y == .eq :=
    List.mem_filter.mpr ⟨hx, by simp [@Std.ReflCmp.compare_self _ cmp]⟩
  rw [ties] at tie
  exact List.mem_of_mem_filter tie

/-- A list in order is determined by the ties in it and the order in which they come. -/
theorem eq_of_pairwise_of_ties (hx : xs.Pairwise fun x y => (cmp x y).isLE)
    (hy : ys.Pairwise fun x y => (cmp x y).isLE)
    (ties : ∀ a, xs.filter (fun x => cmp a x == .eq) = ys.filter fun x => cmp a x == .eq) : xs = ys := by
  induction xs generalizing ys with
  | nil =>
    cases ys with
    | nil => rfl
    | cons y ys => exact absurd (mem_of_ties (fun a => (ties a).symm) List.mem_cons_self) List.not_mem_nil
  | cons x xs ih =>
    cases ys with
    | nil => exact absurd (mem_of_ties ties List.mem_cons_self) List.not_mem_nil
    | cons y ys =>
      have tie : cmp x y = .eq := by
        refine Std.OrientedCmp.isLE_antisymm (isLE_head hx ?_) (isLE_head hy ?_)
        · exact mem_of_ties (fun a => (ties a).symm) List.mem_cons_self
        · exact mem_of_ties ties List.mem_cons_self
      have heads := ties x
      rw [List.filter_cons_of_pos (by simp [@Std.ReflCmp.compare_self _ cmp]), List.filter_cons_of_pos (by simp [tie])]
        at heads
      obtain rfl := (List.cons.inj heads).1
      refine congrArg (x :: ·) (ih (List.pairwise_cons.mp hx).2 (List.pairwise_cons.mp hy).2 fun a => ?_)
      have tails : [x].filter (fun x => cmp a x == .eq) ++ xs.filter (fun x => cmp a x == .eq) =
          [x].filter (fun x => cmp a x == .eq) ++ ys.filter fun x => cmp a x == .eq := by
        rw [← List.filter_append, ← List.filter_append]
        exact ties a
      exact List.append_cancel_left tails

end Uniqueness

/-- It makes no difference whether items are left out before or after the others are sorted. -/
theorem filter_mergeHalves (p : α → Bool) (items : List α) :
    (mergeHalves (fun x y => cmp x y == .lt) items).filter p =
      mergeHalves (fun x y => cmp x y == .lt) (items.filter p) := by
  refine eq_of_pairwise_of_ties ((mergeHalves_sorted items).filter p) (mergeHalves_sorted _) fun a => ?_
  rw [List.filter_comm, mergeHalves_filter_ties, mergeHalves_filter_ties, List.filter_comm]

end Stable
end DocQuery
