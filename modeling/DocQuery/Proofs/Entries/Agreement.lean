import DocQuery.Proofs.Entries

/-! Maps that hold related values, or none, under every key, in whatever order their entries come. Each
operation on maps is described by what look-up finds after it, so that it keeps maps related. -/
namespace DocQuery.Entries

theorem find?_insert (entries : List (String × α)) :
    find? j (insert k v entries) = if k = j then some v else find? j entries := by
  induction entries with
  | nil => simp [insert, find?]
  | cons e es ih =>
    by_cases hk : e.1 = k
    · subst hk
      simp only [insert, if_true, find?]
      split <;> rfl
    · simp only [insert, if_neg hk, find?, ih]
      split
      next hj =>
        subst hj
        rw [if_neg (Ne.symm hk)]
      next => rfl

theorem keys_insert (entries : List (String × α)) : keys (insert k v entries) =
    if k ∈ keys entries then keys entries else keys entries ++ [k] := by
  induction entries with
  | nil => simp [insert, keys]
  | cons e es ih =>
    by_cases hk : e.1 = k
    · simp [insert, keys, hk]
    · have tail : keys (insert k v (e :: es)) = e.1 :: keys (insert k v es) := by
        rw [insert, if_neg hk]
        rfl
      have member : k ∈ keys (e :: es) ↔ k ∈ keys es := by
        simp [keys, Ne.symm hk]
      rw [tail, ih]
      simp only [member]
      split <;> rfl

theorem insert_insert (entries : List (String × α)) : insert k w (insert k v entries) = insert k w entries := by
  induction entries with
  | nil => simp [insert]
  | cons e es ih =>
    by_cases hk : e.1 = k
    · simp [insert, hk]
    · simp [insert, hk, ih]

/-- A write leaves all other entries alone. -/
theorem erase_insert (entries : List (String × α)) : erase k (insert k v entries) = erase k entries := by
  induction entries with
  | nil => simp [insert, erase]
  | cons e es ih =>
    simp only [erase] at ih ⊢
    by_cases hk : e.1 = k
    · simp [insert, hk]
    · rw [insert, if_neg hk, List.filter_cons, List.filter_cons, ih]

theorem nodup_insert {entries : List (String × α)} (distinct : (keys entries).Nodup) :
    (keys (insert k v entries)).Nodup := by
  rw [keys_insert]
  split
  next => exact distinct
  next fresh => exact (List.perm_append_singleton k _).nodup_iff.mpr (List.nodup_cons.mpr ⟨fresh, distinct⟩)

theorem nodup_extend {entries : List (String × α)} (distinct : (keys entries).Nodup)
    (pairs : List (String × α)) : (keys (extend entries pairs)).Nodup := by
  induction pairs generalizing entries with
  | nil => exact distinct
  | cons pair pairs ih => exact ih (nodup_insert distinct)

theorem find?_extend (entries : List (String × α)) {pairs : List (String × α)}
    (distinct : (keys pairs).Nodup) :
    find? k (extend entries pairs) = (find? k pairs).or (find? k entries) := by
  induction pairs generalizing entries with
  | nil => rfl
  | cons pair pairs ih =>
    obtain ⟨fresh, distinct⟩ := List.nodup_cons.mp distinct
    have later : find? k (extend entries (pair :: pairs)) =
        (find? k pairs).or (find? k (insert pair.1 pair.2 entries)) := ih _ distinct
    rw [later, find?_insert, find?]
    split
    next hk =>
      subst hk
      rw [find?_eq_none_iff.mpr fresh]
      rfl
    next => rfl

theorem find?_erase (entries : List (String × α)) :
    find? j (erase k entries) = if k = j then none else find? j entries := by
  induction entries with
  | nil => simp [erase, find?]
  | cons e es ih =>
    rw [erase] at ih ⊢
    by_cases hk : e.1 = k
    · rw [List.filter_cons_of_neg (by simpa using hk), ih, find?, hk]
      split <;> rfl
    · rw [List.filter_cons_of_pos (by simpa using hk), find?, ih, find?]
      split
      next hj =>
        subst hj
        rw [if_neg (Ne.symm hk)]
      next => rfl

theorem nodup_erase {entries : List (String × α)} (distinct : (keys entries).Nodup) :
    (keys (erase k entries)).Nodup :=
  distinct.sublist (List.filter_sublist.map _)

/-- Maps without repeated keys that hold related values under the same keys. -/
structure Agree (R : α → β → Prop) (as : List (String × α)) (bs : List (String × β)) : Prop where
  left : (keys as).Nodup
  right : (keys bs).Nodup
  related : ∀ key, Option.Rel R (find? key as) (find? key bs)

namespace Agree

variable {R : α → β → Prop} {as as' : List (String × α)} {bs bs' : List (String × β)}

theorem nil : Agree R [] [] := ⟨.nil, .nil, fun _ => .none⟩

theorem insert (h : Agree R as bs) (hv : R v w) :
    Agree R (Entries.insert k v as) (Entries.insert k w bs) := by
  refine ⟨nodup_insert h.left, nodup_insert h.right, fun key => ?_⟩
  rw [find?_insert, find?_insert]
  split
  · exact .some hv
  · exact h.related key

theorem insert_twice {R : α → α → Prop} {as : List (String × α)} (h : Agree R as as) (hv : R v v') :
    Agree R (Entries.insert k v (Entries.insert k w as)) (Entries.insert k v' (Entries.insert k w' as)) := by
  refine ⟨nodup_insert (nodup_insert h.left), nodup_insert (nodup_insert h.right), fun key => ?_⟩
  simp only [find?_insert]
  split
  · exact .some hv
  · exact h.related key

theorem insert_comm {R : α → α → Prop} {as : List (String × α)} (h : Agree R as as) (hv : R v v)
    (hw : R w w) (ne : j ≠ k) :
    Agree R (Entries.insert k w (Entries.insert j v as)) (Entries.insert j v (Entries.insert k w as)) := by
  refine ⟨nodup_insert (nodup_insert h.left), nodup_insert (nodup_insert h.right), fun key => ?_⟩
  simp only [find?_insert]
  by_cases hj : j = key
  · subst hj
    simp only [if_neg ne.symm, if_true]
    exact .some hv
  · by_cases hk : k = key
    · simp only [if_pos hk, if_neg hj]
      exact .some hw
    · simp only [if_neg hk, if_neg hj]
      exact h.related key

theorem erase (h : Agree R as bs) : Agree R (Entries.erase k as) (Entries.erase k bs) := by
  refine ⟨nodup_erase h.left, nodup_erase h.right, fun key => ?_⟩
  rw [find?_erase, find?_erase]
  split
  · exact .none
  · exact h.related key

theorem extend (h : Agree R as bs) (h' : Agree R as' bs') :
    Agree R (Entries.extend as as') (Entries.extend bs bs') := by
  refine ⟨nodup_extend h.left _, nodup_extend h.right _, fun key => ?_⟩
  rw [find?_extend _ h'.left, find?_extend _ h'.right]
  match find? key as', find? key bs', h'.related key with
  | _, _, .some related => exact .some related
  | _, _, .none => exact h.related key

/-- Pairs written one after another, where keys may be repeated. -/
theorem extend_pairs (h : Agree R as bs)
    (pairs : List.Forall₂ (fun a b => a.1 = b.1 ∧ R a.2 b.2) as' bs') :
    Agree R (Entries.extend as as') (Entries.extend bs bs') := by
  induction pairs generalizing as bs with
  | nil => exact h
  | @cons a b _ _ related _ ih =>
    obtain ⟨key, value⟩ := related
    have step : Agree R (Entries.insert a.1 a.2 as) (Entries.insert b.1 b.2 bs) :=
      key ▸ h.insert value
    exact ih step

theorem swap (h : Agree R as bs) : Agree (fun b a => R a b) bs as := by
  refine ⟨h.right, h.left, fun key => ?_⟩
  match find? key as, find? key bs, h.related key with
  | _, _, .some related => exact .some related
  | _, _, .none => exact .none

theorem keys_subset (h : Agree R as bs) : keys as ⊆ keys bs := by
  intro key hk
  by_contra fresh
  have absent := find?_eq_none_iff.mpr fresh
  have related := h.related key
  rw [absent] at related
  cases found : find? key as with
  | none => exact find?_eq_none_iff.mp found hk
  | some v =>
    rw [found] at related
    contradiction

theorem keys_perm (h : Agree R as bs) : (keys as).Perm (keys bs) :=
  (h.left.subperm h.keys_subset).antisymm (h.right.subperm h.swap.keys_subset)

theorem partner (h : Agree R as bs) (ha : a ∈ as) : ∃ v, find? a.1 bs = some v ∧ R a.2 v := by
  have related := h.related a.1
  have found : find? a.1 as = some a.2 := find?_of_mem h.left ha
  rw [found] at related
  generalize find? a.1 bs = found at related
  cases related with
  | some related => exact ⟨_, rfl, related⟩

theorem iff_partners : Agree R as bs ↔ (keys as).Nodup ∧ (keys bs).Nodup ∧ as.length = bs.length ∧
    ∀ a ∈ as, ∃ v, find? a.1 bs = some v ∧ R a.2 v := by
  constructor
  · intro h
    have size := h.keys_perm.length_eq
    simp only [keys, List.length_map] at size
    exact ⟨h.left, h.right, size, fun a ha => h.partner ha⟩
  · rintro ⟨ha, hb, size, partners⟩
    refine ⟨ha, hb, fun key => ?_⟩
    have perm := keys_perm_of_partners ha size partners
    cases found : find? key as with
    | none =>
      rw [find?_eq_none_iff, perm.mem_iff] at found
      rw [find?_eq_none_iff.mpr found]
      exact .none
    | some v =>
      obtain ⟨w, partner, related⟩ := partners _ (mem_of_find? found)
      rw [partner]
      exact .some related

theorem imp_mem {S : α → β → Prop} (h : Agree R as bs)
    (imp : ∀ e ∈ as, ∀ w, R e.2 w → S e.2 w) : Agree S as bs := by
  rw [iff_partners] at h ⊢
  obtain ⟨ha, hb, size, partners⟩ := h
  refine ⟨ha, hb, size, fun a member => ?_⟩
  obtain ⟨w, found, related⟩ := partners a member
  exact ⟨w, found, imp a member w related⟩

theorem trans_mem {S : β → γ → Prop} {T : α → γ → Prop} {cs : List (String × γ)}
    (h : Agree R as bs) (h' : Agree S bs cs)
    (trans : ∀ e ∈ as, ∀ v w, R e.2 v → S v w → T e.2 w) : Agree T as cs := by
  refine iff_partners.mpr ⟨h.left, h'.right, ?_, fun a member => ?_⟩
  · simpa only [keys, List.length_map] using (h.keys_perm.trans h'.keys_perm).length_eq
  · obtain ⟨v, found, first⟩ := h.partner member
    obtain ⟨w, partner, second⟩ := h'.partner (mem_of_find? found)
    exact ⟨w, partner, trans a member v w first second⟩

/-- Related maps are, by key, lists of related entries. -/
theorem iff_sorted : Agree R as bs ↔ (keys as).Nodup ∧ (keys bs).Nodup ∧
    List.Forall₂ (fun a b => a.1 = b.1 ∧ R a.2 b.2) (sortByKey as) (sortByKey bs) := by
  rw [iff_partners]
  refine and_congr_right fun ha => and_congr_right fun hb => ?_
  exact (forall₂_sortByKey_iff ha hb).symm

end Agree
end DocQuery.Entries
