import DocQuery.Text.Split

/-! Pieces between separators hold no separator, and pieces without one are what their joined text is cut
into. -/
namespace DocQuery

theorem extendFirst_eq_modifyHead (c : Char) {pieces : List (List Char)} (h : pieces ≠ []) :
    extendFirst c pieces = pieces.modifyHead (c :: ·) := by
  cases pieces with
  | nil => contradiction
  | cons => rfl

theorem splitAt_eq_splitOn (separator : Char) (cs : List Char) : splitAt separator cs = cs.splitOn separator := by
  induction cs with
  | nil => rfl
  | cons c cs ih =>
    simp only [List.splitOn_cons_eq_if_modifyHead, beq_iff_eq]
    rw [splitAt, ih]
    split
    · rfl
    · exact extendFirst_eq_modifyHead c (List.splitOn_ne_nil _ cs)

theorem mem_of_mem_extendFirst {c : Char} {piece : List Char} {pieces : List (List Char)}
    (h : piece ∈ extendFirst c pieces) :
    piece ∈ pieces ∨ ∃ tail, piece = c :: tail ∧ (tail = [] ∨ tail ∈ pieces) := by
  cases pieces with
  | nil => exact .inr ⟨[], List.mem_singleton.mp h, .inl rfl⟩
  | cons first pieces =>
    rcases List.mem_cons.mp h with rfl | h
    · exact .inr ⟨first, rfl, .inr List.mem_cons_self⟩
    · exact .inl (List.mem_cons_of_mem _ h)

theorem not_mem_of_mem_splitAt {separator : Char} {cs piece : List Char} (h : piece ∈ splitAt separator cs) :
    separator ∉ piece := by
  induction cs generalizing piece with
  | nil =>
    obtain rfl := List.mem_singleton.mp h
    exact List.not_mem_nil
  | cons c cs ih =>
    rw [splitAt] at h
    split at h
    next =>
      rcases List.mem_cons.mp h with rfl | h
      · exact List.not_mem_nil
      · exact ih h
    next other =>
      rcases mem_of_mem_extendFirst h with h | ⟨tail, rfl, rfl | h⟩
      · exact ih h
      · exact List.not_mem_cons_of_ne_of_not_mem (Ne.symm other) List.not_mem_nil
      · exact List.not_mem_cons_of_ne_of_not_mem (Ne.symm other) (ih h)

theorem splitAt_intercalate {separator : Char} {pieces : List (List Char)} (some : pieces ≠ [])
    (apart : ∀ piece ∈ pieces, separator ∉ piece) :
    splitAt separator ([separator].intercalate pieces) = pieces := by
  rw [splitAt_eq_splitOn]
  exact List.splitOn_intercalate separator apart some

end DocQuery
