import DocQuery.Proofs.Lists
import DocQuery.Sorting

/-! Sorting as a permutation, and sorting two lists at once: where comparisons agree on related items, the
sorted lists are related item by item. -/
namespace DocQuery

theorem mergeHalves_perm (before : α → α → Bool) (items : List α) :
    (mergeHalves before items).Perm items := by
  fun_induction mergeHalves before items with
  | case1 => exact .refl _
  | case2 items h first second =>
    have whole := first.append second
    rw [List.take_append_drop] at whole
    exact (List.merge_perm_append _).trans whole

theorem mergeHalves_long (before : α → α → Bool) {items : List α} (h : ¬items.length ≤ 1) :
    mergeHalves before items = List.merge (mergeHalves before (items.take (items.length / 2)))
      (mergeHalves before (items.drop (items.length / 2))) fun x y => !before y x := by
  rw [mergeHalves, dif_neg h]

theorem mergeHalves_map {before : α → α → Bool} {before' : β → β → Bool} {f : α → β} {items : List α}
    (h : ∀ a ∈ items, ∀ b ∈ items, before a b = before' (f a) (f b)) :
    (mergeHalves before items).map f = mergeHalves before' (items.map f) := by
  fun_induction mergeHalves before items with
  | case1 items short =>
    rw [mergeHalves, dif_pos (by simpa using short)]
  | case2 items long first second =>
    have left : (mergeHalves before (items.take (items.length / 2))).map f = _ :=
      first fun a ha b hb => h a (List.mem_of_mem_take ha) b (List.mem_of_mem_take hb)
    have right : (mergeHalves before (items.drop (items.length / 2))).map f = _ :=
      second fun a ha b hb => h a (List.mem_of_mem_drop ha) b (List.mem_of_mem_drop hb)
    have long' : ¬(items.map f).length ≤ 1 := by rwa [List.length_map]
    rw [mergeHalves_long before' long', List.length_map, ← List.map_take, ← List.map_drop,
      ← left, ← right]
    refine List.map_merge fun a ha b hb => ?_
    rw [h b (List.mem_of_mem_drop ((mergeHalves_perm _ _).mem_iff.mp hb)) a
      (List.mem_of_mem_take ((mergeHalves_perm _ _).mem_iff.mp ha))]

/-- Related lists as the two sides of one list of pairs. -/
theorem forall₂_iff_pairs {R : α → β → Prop} {as : List α} {bs : List β} : List.Forall₂ R as bs ↔
    ∃ pairs : List (α × β), pairs.map (·.1) = as ∧ pairs.map (·.2) = bs ∧ ∀ p ∈ pairs, R p.1 p.2 := by
  constructor
  · intro h
    induction h with
    | nil => exact ⟨[], rfl, rfl, by simp⟩
    | @cons a b as bs first _ ih =>
      obtain ⟨pairs, rfl, rfl, related⟩ := ih
      exact ⟨(a, b) :: pairs, rfl, rfl, List.forall_mem_cons.mpr ⟨first, related⟩⟩
  · rintro ⟨pairs, rfl, rfl, related⟩
    rw [forall₂_map_map, List.forall₂_same]
    exact related

theorem mergeHalves_rel {R : α → β → Prop} {before : α → α → Bool} {before' : β → β → Bool}
    {as : List α} {bs : List β} (h : List.Forall₂ R as bs)
    (congr : ∀ a b, R a b → ∀ a' b', R a' b' → before a a' = before' b b') :
    List.Forall₂ R (mergeHalves before as) (mergeHalves before' bs) := by
  obtain ⟨pairs, rfl, rfl, related⟩ := forall₂_iff_pairs.mp h
  let both := mergeHalves (fun p q : α × β => before p.1 q.1) pairs
  refine forall₂_iff_pairs.mpr ⟨both, ?_, ?_, fun p hp => ?_⟩
  · exact mergeHalves_map fun _ _ _ _ => rfl
  · exact mergeHalves_map fun p hp q hq => congr _ _ (related p hp) _ _ (related q hq)
  · exact related p ((mergeHalves_perm _ _).mem_iff.mp hp)

theorem mergeSort_rel {R : α → β → Prop} {le : α → α → Bool} {le' : β → β → Bool} {as : List α}
    {bs : List β} (h : List.Forall₂ R as bs)
    (congr : ∀ a b, R a b → ∀ a' b', R a' b' → le a a' = le' b b') :
    List.Forall₂ R (as.mergeSort le) (bs.mergeSort le') := by
  obtain ⟨pairs, rfl, rfl, related⟩ := forall₂_iff_pairs.mp h
  let both := pairs.mergeSort fun p q => le p.1 q.1
  refine forall₂_iff_pairs.mpr ⟨both, ?_, ?_, fun p hp => related p (List.mem_mergeSort.mp hp)⟩
  · exact List.map_mergeSort fun _ _ _ _ => rfl
  · exact List.map_mergeSort fun p hp q hq => congr _ _ (related p hp) _ _ (related q hq)

end DocQuery
