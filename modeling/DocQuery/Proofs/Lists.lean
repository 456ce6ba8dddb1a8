import Mathlib.Data.List.Forall2

/-! Lists related item by item, where only members have to be related, and lists sorted by texts. -/
namespace DocQuery

theorem forall₂_map_map {R : γ → δ → Prop} {f : α → γ} {g : β → δ} {as : List α} {bs : List β} :
    List.Forall₂ R (as.map f) (bs.map g) ↔ List.Forall₂ (fun a b => R (f a) (g b)) as bs := by
  rw [List.forall₂_map_left_iff, List.forall₂_map_right_iff]

theorem exists_of_forall₂ {R : α → β → Prop} {as : List α} {bs : List β} (h : List.Forall₂ R as bs)
    (ha : a ∈ as) : ∃ b ∈ bs, R a b := by
  induction h with
  | nil => contradiction
  | cons related _ ih =>
    rcases List.mem_cons.mp ha with rfl | ha
    · exact ⟨_, List.mem_cons_self, related⟩
    · obtain ⟨b, hb, related⟩ := ih ha
      exact ⟨b, List.mem_cons_of_mem _ hb, related⟩

theorem forall₂_imp_mem {R S : α → β → Prop} {as : List α} {bs : List β} (h : List.Forall₂ R as bs)
    (imp : ∀ a ∈ as, ∀ b ∈ bs, R a b → S a b) : List.Forall₂ S as bs := by
  induction h with
  | nil => exact .nil
  | cons first _ ih =>
    refine .cons (imp _ List.mem_cons_self _ List.mem_cons_self first) (ih ?_)
    exact fun a ha b hb => imp a (List.mem_cons_of_mem _ ha) b (List.mem_cons_of_mem _ hb)

theorem forall₂_congr_mem {R S : α → β → Prop} {as : List α} {bs : List β}
    (h : ∀ a ∈ as, ∀ b ∈ bs, R a b ↔ S a b) : List.Forall₂ R as bs ↔ List.Forall₂ S as bs :=
  ⟨fun related => forall₂_imp_mem related fun a ha b hb => (h a ha b hb).mp,
    fun related => forall₂_imp_mem related fun a ha b hb => (h a ha b hb).mpr⟩

theorem forall₂_trans_mem {R : α → β → Prop} {S : β → γ → Prop} {T : α → γ → Prop} {as : List α}
    {bs : List β} {cs : List γ} (h : List.Forall₂ R as bs) (h' : List.Forall₂ S bs cs)
    (trans : ∀ a ∈ as, ∀ b c, R a b → S b c → T a c) : List.Forall₂ T as cs := by
  induction h generalizing cs with
  | nil =>
    cases h'
    exact .nil
  | cons first _ ih =>
    cases h' with
    | cons second others =>
      refine .cons (trans _ List.mem_cons_self _ _ first second) (ih others ?_)
      exact fun a ha => trans a (List.mem_cons_of_mem _ ha)

theorem map_eq_of_forall₂ {R : α → β → Prop} {f : α → γ} {g : β → γ} {as : List α} {bs : List β}
    (h : List.Forall₂ R as bs) (congr : ∀ a ∈ as, ∀ b, R a b → f a = g b) : as.map f = bs.map g := by
  induction h with
  | nil => rfl
  | cons related _ ih =>
    rw [List.map_cons, List.map_cons, congr _ List.mem_cons_self _ related,
      ih fun a ha => congr a (List.mem_cons_of_mem _ ha)]

theorem forall₂_and_zip {R : α → β → Prop} {p : α × β → Bool} {as : List α} {bs : List β}
    (h : List.Forall₂ R as bs) (all : (as.zip bs).all p) :
    List.Forall₂ (fun a b => R a b ∧ p (a, b)) as bs := by
  induction h with
  | nil => exact .nil
  | cons first _ ih =>
    rw [List.zip_cons_cons, List.all_cons, Bool.and_eq_true] at all
    exact .cons ⟨first, all.1⟩ (ih all.2)

section Texts

variable (text : α → String)

theorem texts_trans (a b c : α) (hab : decide (text a ≤ text b) = true) (hbc : decide (text b ≤ text c) = true) :
    decide (text a ≤ text c) = true := by
  simp only [decide_eq_true_eq] at *
  exact String.le_trans hab hbc

theorem texts_total (a b : α) : (decide (text a ≤ text b) || decide (text b ≤ text a)) = true := by
  simp only [Bool.or_eq_true, decide_eq_true_eq]
  exact String.le_total (text a) (text b)

theorem pairwise_mergeSort_texts (items : List α) :
    (items.mergeSort fun a b => text a ≤ text b).Pairwise fun a b => text a ≤ text b := by
  have sorted : (items.mergeSort fun a b => text a ≤ text b).Pairwise fun a b =>
      decide (text a ≤ text b) = true := List.pairwise_mergeSort (texts_trans text) (texts_total text) items
  simpa only [decide_eq_true_eq] using sorted

/-- Items of one text stay in the order in which they came. -/
theorem filter_mergeSort_texts (t : String) (items : List α) :
    (items.mergeSort fun a b => text a ≤ text b).filter (text · = t) = items.filter (text · = t) := by
  have tied : (items.filter (text · = t)).Pairwise fun a b => decide (text a ≤ text b) = true := by
    refine List.pairwise_of_forall_mem_list fun a ha b hb => ?_
    simp only [List.mem_filter, decide_eq_true_eq] at ha hb
    rw [ha.2, hb.2]
    exact decide_eq_true (String.le_refl t)
  have stays := List.sublist_mergeSort (texts_trans text) (texts_total text) tied List.filter_sublist
  have kept := stays.filter (text · = t)
  rw [List.filter_filter] at kept
  simp only [Bool.and_self] at kept
  exact (kept.eq_of_length ((List.mergeSort_perm items _).filter _).length_eq.symm).symm

end Texts

end DocQuery
