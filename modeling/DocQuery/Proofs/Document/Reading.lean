import DocQuery.Proofs.Document

/-! What is read at a path after fields were written: the value of a write to that path, and whatever was there
before at paths apart from those of the writes. -/
namespace DocQuery

variable {fields : Fields} {path rest : List String}

theorem getField_nil (path : List String) : getField [] path = none := by
  match path with
  | [] | [_] | _ :: _ :: _ => rfl

/-- Below a key, a path is read in the map that a write would go into. -/
theorem getField_cons (fields : Fields) (key : String) (long : rest ≠ []) :
    getField fields (key :: rest) = getField (mapBelow fields key) rest := by
  obtain ⟨k, ks, rfl⟩ := List.exists_cons_of_ne_nil long
  rw [getField, mapBelow]
  cases Entries.find? key fields with
  | none => exact (getField_nil _).symm
  | some v =>
    cases v with
    | map inner => rfl
    | _ => exact (getField_nil _).symm
  exact List.cons_ne_nil k ks

theorem mapBelow_written (fields below : Fields) (key : String) (v : Value) (long : rest ≠ []) :
    mapBelow (Entries.insert key (written below rest v) fields) key = setField below rest v := by
  obtain ⟨k, ks, rfl⟩ := List.exists_cons_of_ne_nil long
  exact mapBelow_insert_self fields _ key

theorem getField_append (fields : Fields) (nonempty : path ≠ []) (long : rest ≠ []) :
    getField fields (path ++ rest) =
      match getField fields path with
      | some (.map inner) => getField inner rest
      | _ => none := by
  induction path generalizing fields with
  | nil => contradiction
  | cons key path ih =>
    obtain ⟨k, ks, rfl⟩ := List.exists_cons_of_ne_nil long
    cases path with
    | nil => rfl
    | cons j js =>
      rw [List.cons_append, getField_cons _ _ (by simp), ih _ (by simp), getField_cons fields key (by simp)]

theorem getField_setField (fields : Fields) (v : Value) (nonempty : path ≠ []) :
    getField (setField fields path v) path = some v := by
  induction path generalizing fields with
  | nil => contradiction
  | cons key rest ih =>
    rw [setField_cons]
    by_cases long : rest = []
    · subst long
      rw [written, getField, Entries.find?_insert, if_pos rfl]
    · rw [getField_cons _ _ long, mapBelow_written _ _ _ _ long, ih _ long]

theorem getField_setField_apart (fields : Fields) (v : Value) {p q : List String} (hp : ¬ p <+: q) (hq : ¬ q <+: p) :
    getField (setField fields p v) q = getField fields q := by
  induction p generalizing fields q with
  | nil => exact absurd List.nil_prefix hp
  | cons j ps ih =>
    cases q with
    | nil => exact absurd List.nil_prefix hq
    | cons k qs =>
      rw [setField_cons]
      by_cases same : j = k
      · subst same
        rw [List.cons_prefix_cons, not_and] at hp hq
        have below : ps ≠ [] := fun h => hp rfl (h ▸ List.nil_prefix)
        have long : qs ≠ [] := fun h => hq rfl (h ▸ List.nil_prefix)
        rw [getField_cons _ _ long, getField_cons _ _ long, mapBelow_written _ _ _ _ below, ih _ (hp rfl) (hq rfl)]
      · by_cases long : qs = []
        · subst long
          rw [getField, getField, Entries.find?_insert, if_neg same]
        · rw [getField_cons _ _ long, getField_cons _ _ long, mapBelow_insert_ne _ _ same]

section Writes

variable {p : FieldPath} {writes : List (FieldPath × Value)}

theorem getField_writeFields_apart (fields : Fields) (apart : ∀ w ∈ writes, w.1.Apart p) :
    getField (writeFields fields writes) p.segments = getField fields p.segments := by
  induction writes generalizing fields with
  | nil => rfl
  | cons w ws ih =>
    obtain ⟨first, others⟩ := List.forall_mem_cons.mp apart
    have later := ih (setField fields w.1.segments w.2) others
    exact later.trans (getField_setField_apart fields w.2 first.1 first.2)

/-- Writes that keep apart from each other can all be read back. -/
theorem getField_writeFields (fields : Fields) (apart : writes.Pairwise fun a b => a.1.Apart b.1)
    (h : (p, v) ∈ writes) (nonempty : p.segments ≠ []) :
    getField (writeFields fields writes) p.segments = some v := by
  induction writes generalizing fields with
  | nil => contradiction
  | cons w ws ih =>
    obtain ⟨first, others⟩ := List.pairwise_cons.mp apart
    rcases List.mem_cons.mp h with rfl | h
    · have kept := getField_writeFields_apart (setField fields p.segments v) fun w hw => (first w hw).symm
      exact kept.trans (getField_setField fields v nonempty)
    · exact ih (setField fields w.1.segments w.2) others h

end Writes
end DocQuery
