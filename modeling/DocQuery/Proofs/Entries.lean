import Mathlib.Data.List.Perm.Subperm
import DocQuery.Entries
import DocQuery.Proofs.Lists

/-! Maps from names as lists of entries: what look-up finds, and sorting by key as the normal form of a
map whose keys are distinct. -/
namespace DocQuery.Entries

theorem mem_of_find? {entries : List (String × α)} (h : find? key entries = some v) :
    (key, v) ∈ entries := by
  induction entries with
  | nil => contradiction
  | cons e es ih =>
    simp only [find?] at h
    split at h
    next hk =>
      cases h
      simp [← hk]
    next => exact List.mem_cons_of_mem e (ih h)

theorem find?_eq_none_iff {entries : List (String × α)} :
    find? key entries = none ↔ key ∉ keys entries := by
  induction entries with
  | nil => simp [find?, keys]
  | cons e es ih =>
    by_cases hk : e.1 = key
    · simp [find?, keys, hk]
    · simpa [find?, keys, hk, Ne.symm hk] using ih

theorem find?_of_mem {entries : List (String × α)} (distinct : (keys entries).Nodup)
    (h : (key, v) ∈ entries) : find? key entries = some v := by
  induction entries with
  | nil => contradiction
  | cons e es ih =>
    obtain ⟨fresh, distinct⟩ := List.nodup_cons.mp distinct
    rcases List.mem_cons.mp h with rfl | h
    · simp [find?]
    · have other : e.1 ≠ key := by
        rintro rfl
        exact fresh (List.mem_map.mpr ⟨_, h, rfl⟩)
      simpa only [find?, if_neg other] using ih distinct h

theorem sortByKey_perm (entries : List (String × α)) : (sortByKey entries).Perm entries :=
  List.mergeSort_perm _ _

theorem sortByKey_sorted (entries : List (String × α)) :
    (keys (sortByKey entries)).Pairwise (· ≤ ·) :=
  List.pairwise_map.mpr (pairwise_mergeSort_texts (·.1) entries)

/-- The entries by key, those of one key as they came. -/
structure StablySorted (entries sorted : List (String × α)) : Prop where
  perm : sorted.Perm entries
  ordered : (keys sorted).Pairwise (· ≤ ·)
  ties : ∀ key, sorted.filter (·.1 = key) = entries.filter (·.1 = key)

theorem stablySorted_sortByKey (entries : List (String × α)) : StablySorted entries (sortByKey entries) where
  perm := sortByKey_perm entries
  ordered := sortByKey_sorted entries
  ties key := filter_mergeSort_texts (·.1) key entries

/-- Where keys are distinct, there is one way to list entries by key. -/
theorem sortByKey_eq_of_perm {as bs : List (String × α)} (distinct : (keys as).Nodup) (h : bs.Perm as) :
    sortByKey bs = sortByKey as := by
  have ordered (entries : List (String × α)) : (sortByKey entries).Pairwise fun a b => a.1 ≤ b.1 :=
    List.pairwise_map.mp (sortByKey_sorted entries)
  have perm : (sortByKey bs).Perm (sortByKey as) :=
    (sortByKey_perm bs).trans (h.trans (sortByKey_perm as).symm)
  refine perm.eq_of_pairwise (fun a b ha hb hab hba => ?_) (ordered bs) (ordered as)
  have first := find?_of_mem distinct (h.subset ((sortByKey_perm bs).subset ha))
  have second := find?_of_mem distinct ((sortByKey_perm as).subset hb)
  have key := String.le_antisymm hab hba
  rw [key, second] at first
  exact Prod.ext key (Option.some.inj first).symm

theorem sortByKey_map (f : α → β) (entries : List (String × α)) :
    sortByKey (entries.map fun e => (e.1, f e.2)) =
      (sortByKey entries).map fun e => (e.1, f e.2) := by
  refine (List.map_mergeSort ?_).symm
  intros
  rfl

theorem sortByKey_pair (a b : String × α) :
    sortByKey [a, b] = if a.1 ≤ b.1 then [a, b] else [b, a] := by
  simp [sortByKey, List.mergeSort, List.MergeSort.Internal.splitInTwo, List.merge]

theorem forall₂_of_keys {R : α → β → Prop} {as : List (String × α)} {bs : List (String × β)}
    (same : keys as = keys bs) (h : ∀ a ∈ as, ∀ b ∈ bs, a.1 = b.1 → R a.2 b.2) :
    List.Forall₂ (fun a b => a.1 = b.1 ∧ R a.2 b.2) as bs := by
  induction as generalizing bs with
  | nil =>
    cases bs with
    | nil => exact .nil
    | cons b bs => contradiction
  | cons a as ih =>
    cases bs with
    | nil => contradiction
    | cons b bs =>
      obtain ⟨head, tail⟩ := List.cons.inj same
      refine .cons ⟨head, h a List.mem_cons_self b List.mem_cons_self head⟩ (ih tail ?_)
      exact fun a ha b hb => h a (List.mem_cons_of_mem _ ha) b (List.mem_cons_of_mem _ hb)

theorem keys_perm_of_partners {R : α → β → Prop} {as : List (String × α)} {bs : List (String × β)}
    (ha : (keys as).Nodup) (size : as.length = bs.length)
    (partners : ∀ a ∈ as, ∃ v, find? a.1 bs = some v ∧ R a.2 v) : (keys as).Perm (keys bs) := by
  have sub : keys as ⊆ keys bs := by
    intro k hk
    obtain ⟨a, member, rfl⟩ := List.mem_map.mp hk
    obtain ⟨v, found, _⟩ := partners a member
    exact List.mem_map_of_mem (mem_of_find? found)
  exact (ha.subperm sub).perm_of_length_le (by simp [keys, size])

/-- Maps of one size in which every entry of the first has a partner in the second are, by key, the
same list of pairs of partners. -/
theorem forall₂_sortByKey_iff {R : α → β → Prop} {as : List (String × α)} {bs : List (String × β)}
    (ha : (keys as).Nodup) (hb : (keys bs).Nodup) :
    List.Forall₂ (fun a b => a.1 = b.1 ∧ R a.2 b.2) (sortByKey as) (sortByKey bs) ↔
      as.length = bs.length ∧ ∀ a ∈ as, ∃ v, find? a.1 bs = some v ∧ R a.2 v := by
  constructor
  · intro h
    refine ⟨by simpa only [sortByKey, List.length_mergeSort] using h.length_eq, ?_⟩
    intro a member
    obtain ⟨b, hb', key, related⟩ := exists_of_forall₂ h ((sortByKey_perm as).mem_iff.mpr member)
    have found := find?_of_mem hb ((sortByKey_perm bs).mem_iff.mp hb')
    exact ⟨b.2, key ▸ found, related⟩
  · rintro ⟨size, partners⟩
    have perm := keys_perm_of_partners ha size partners
    have same : keys (sortByKey as) = keys (sortByKey bs) := by
      refine List.Perm.eq_of_pairwise (fun _ _ _ _ => String.le_antisymm) (sortByKey_sorted as)
        (sortByKey_sorted bs) ?_
      exact ((sortByKey_perm as).map _).trans (perm.trans ((sortByKey_perm bs).map _).symm)
    refine forall₂_of_keys same fun a ha' b hb' key => ?_
    obtain ⟨v, found, related⟩ := partners a ((sortByKey_perm as).mem_iff.mp ha')
    have other := find?_of_mem hb ((sortByKey_perm bs).mem_iff.mp hb')
    rw [key, other] at found
    exact Option.some.inj found ▸ related

end DocQuery.Entries
