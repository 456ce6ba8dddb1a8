import Mathlib.Data.List.Induction
import DocQuery.Proofs.Entries.Agreement

/-! Pairs written into a map one after another. Of the pairs with one key the last gives the value, and the first the
place. -/
namespace DocQuery.Entries

variable {α : Type} {entries before after pairs : List (String × α)} {k : String} {v : α}

theorem extend_append (entries ps qs : List (String × α)) :
    extend entries (ps ++ qs) = extend (extend entries ps) qs := List.foldl_append

theorem find?_extend_of_not_mem (fresh : k ∉ keys pairs) : find? k (extend entries pairs) = find? k entries := by
  induction pairs generalizing entries with
  | nil => rfl
  | cons pair pairs ih =>
    obtain ⟨other, fresh⟩ := List.ne_and_not_mem_of_not_mem_cons fresh
    have later : find? k (extend entries (pair :: pairs)) = find? k (insert pair.1 pair.2 entries) := ih fresh
    rw [later, find?_insert, if_neg (Ne.symm other)]

theorem find?_extend_last (fresh : k ∉ keys after) :
    find? k (extend entries (before ++ (k, v) :: after)) = some v := by
  have written : extend entries (before ++ (k, v) :: after) = extend (insert k v (extend entries before)) after :=
    extend_append entries before _
  rw [written, find?_extend_of_not_mem fresh, find?_insert, if_pos rfl]

theorem keys_flatten (maps : List (List (String × α))) : keys maps.flatten = maps.flatMap keys := by
  rw [keys, List.map_flatten, List.flatMap_def]
  rfl

theorem not_mem_keys_flatten {maps : List (List (String × α))} (fresh : ∀ m ∈ maps, k ∉ keys m) :
    k ∉ keys maps.flatten := by
  rw [keys_flatten, List.mem_flatMap]
  rintro ⟨m, listed, member⟩
  exact fresh m listed member

/-- A map gives the value of a key to the maps it is written into, unless a later one has the key as well. -/
theorem find?_ofPairs_flatten {m : List (String × α)} {earlier later : List (List (String × α))}
    (distinct : (keys m).Nodup) (h : (k, v) ∈ m) (fresh : ∀ m' ∈ later, k ∉ keys m') :
    find? k (ofPairs (earlier ++ m :: later).flatten) = some v := by
  obtain ⟨before, after, rfl⟩ := List.append_of_mem h
  have behind : k ∉ keys (after ++ later.flatten) := by
    rw [keys, List.map_append, List.mem_append]
    rintro (here | there)
    · rw [keys, List.map_append, List.map_cons] at distinct
      exact (List.nodup_cons.mp (List.nodup_append.mp distinct).2.1).1 here
    · exact not_mem_keys_flatten fresh there
  have pairs : (earlier ++ (before ++ (k, v) :: after) :: later).flatten =
      (earlier.flatten ++ before) ++ (k, v) :: (after ++ later.flatten) := by
    simp only [List.flatten_append, List.flatten_cons, List.append_assoc, List.cons_append]
  rw [pairs]
  exact find?_extend_last behind

theorem keys_ofPairs (pairs : List (String × α)) : keys (ofPairs pairs) = (keys pairs).eraseDups := by
  induction pairs using List.reverseRecOn with
  | nil => rfl
  | append_singleton pairs pair ih =>
    have written : ofPairs (pairs ++ [pair]) = insert pair.1 pair.2 (ofPairs pairs) := extend_append [] pairs [pair]
    have listed : keys (pairs ++ [pair]) = keys pairs ++ [pair.1] := List.map_append
    rw [written, keys_insert, ih, listed, List.eraseDups_append]
    by_cases known : pair.1 ∈ keys pairs
    · rw [if_pos (List.mem_eraseDups.mpr known)]
      simp [List.removeAll, known]
    · rw [if_neg (mt List.mem_eraseDups.mp known)]
      simp [List.removeAll, known, List.eraseDups_cons]

theorem mem_keys_ofPairs : k ∈ keys (ofPairs pairs) ↔ k ∈ keys pairs := by
  rw [keys_ofPairs, List.mem_eraseDups]

theorem nodup_ofPairs (pairs : List (String × α)) : (keys (ofPairs pairs)).Nodup := by
  have empty : (keys ([] : List (String × α))).Nodup := .nil
  exact nodup_extend empty pairs

theorem foldl_extend (maps : List (List (String × α))) : maps.foldl extend entries = extend entries maps.flatten := by
  induction maps generalizing entries with
  | nil => rfl
  | cons m maps ih => rw [List.foldl_cons, ih, List.flatten_cons, extend_append]

/-- The keys behind one that is taken out close up. -/
theorem keys_erase (distinct : (keys entries).Nodup) : keys (erase k entries) = (keys entries).erase k := by
  rw [distinct.erase_eq_filter, keys, keys, erase, List.filter_map]
  congr 1
  refine List.filter_congr fun entry _ => ?_
  simp [bne, beq_eq_decide]

end DocQuery.Entries
