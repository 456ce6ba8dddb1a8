import DocQuery.Proofs.Path

/-! Paths and their texts. A path is read back from its text if and only if it is read from some text. Field paths lose
their backticks in reading, and resource paths their slashes and empty segments. -/
namespace DocQuery

namespace FieldPath

/-- There is a segment, and no segment holds a backtick. -/
structure Plain (path : FieldPath) : Prop where
  nonempty : path.segments ≠ []
  unmarked : ∀ s ∈ path.segments, '\x60' ∉ s.toList

section Pieces

variable {quoted : Bool} {piece front : List Char}

theorem pieces_ne_nil (quoted : Bool) (cs : List Char) : pieces quoted cs ≠ [] := by
  fun_induction pieces quoted cs with
  | case1 => exact List.cons_ne_nil _ _
  | case2 _ _ ih => exact ih
  | case3 => exact List.cons_ne_nil _ _
  | case4 _ c cs _ _ _ =>
    unfold extendFirst
    split <;> exact List.cons_ne_nil _ _

theorem not_mem_of_mem_pieces {cs : List Char} (h : piece ∈ pieces quoted cs) : '\x60' ∉ piece := by
  fun_induction pieces quoted cs generalizing piece with
  | case1 =>
    obtain rfl := List.mem_singleton.mp h
    exact List.not_mem_nil
  | case2 _ _ ih => exact ih h
  | case3 _ _ _ _ _ ih =>
    rcases List.mem_cons.mp h with rfl | h
    · exact List.not_mem_nil
    · exact ih h
  | case4 _ c _ unmarked _ ih =>
    rcases mem_of_mem_extendFirst h with h | ⟨tail, rfl, rfl | h⟩
    · exact ih h
    · exact List.not_mem_cons_of_ne_of_not_mem (Ne.symm unmarked) List.not_mem_nil
    · exact List.not_mem_cons_of_ne_of_not_mem (Ne.symm unmarked) (ih h)

/-- Characters that do not cut go to the first piece of what follows. -/
theorem pieces_append (unmarked : '\x60' ∉ front) (uncut : quoted = true ∨ '.' ∉ front) (rest : List Char) :
    pieces quoted (front ++ rest) = (pieces quoted rest).modifyHead (front ++ ·) := by
  induction front with
  | nil => exact (congrFun List.modifyHead_id _).symm
  | cons c front ih =>
    obtain ⟨mark, unmarked⟩ := List.ne_and_not_mem_of_not_mem_cons unmarked
    have stays : ¬(c = '.' ∧ quoted = false) := by
      rintro ⟨rfl, rfl⟩
      simp at uncut
    have later := ih unmarked (uncut.imp_right List.not_mem_of_not_mem_cons)
    rw [List.cons_append, pieces, if_neg mark.symm, if_neg stays,
      extendFirst_eq_modifyHead c (pieces_ne_nil _ _), later, List.modifyHead_modifyHead]
    rfl

/-- Quotes stand around a segment with dots, and are closed again behind it. -/
theorem pieces_segmentText {segment : String} (unmarked : '\x60' ∉ segment.toList) (rest : List Char) :
    pieces false ((segmentText segment).toList ++ rest) =
      (pieces false rest).modifyHead (segment.toList ++ ·) := by
  rw [segmentText]
  split
  next =>
    have quotes : ("\x60" ++ segment ++ "\x60").toList ++ rest = '\x60' :: (segment.toList ++ '\x60' :: rest) := by
      simp
    have opens : pieces false ('\x60' :: (segment.toList ++ '\x60' :: rest)) =
        pieces true (segment.toList ++ '\x60' :: rest) := rfl
    have closes : pieces true ('\x60' :: rest) = pieces false rest := rfl
    rw [quotes, opens, pieces_append unmarked (.inl rfl), closes]
  next bare =>
    refine pieces_append unmarked (.inr ?_) rest
    simpa using bare

/-- The induction is on the segments behind the first: a dot outside quotes ends one piece and begins the next. -/
theorem pieces_segments {first : String} {others : List String}
    (unmarked : ∀ s ∈ first :: others, '\x60' ∉ s.toList) :
    pieces false ((segmentText first).toList ++ others.flatMap fun s => '.' :: (segmentText s).toList) =
      (first :: others).map String.toList := by
  induction others generalizing first with
  | nil =>
    rw [pieces_segmentText (unmarked first List.mem_cons_self)]
    simp [pieces]
  | cons next others ih =>
    have later := ih fun s hs => unmarked s (List.mem_cons_of_mem _ hs)
    have cut (cs : List Char) : pieces false ('.' :: cs) = [] :: pieces false cs := rfl
    rw [pieces_segmentText (unmarked first List.mem_cons_self), List.flatMap_cons, List.cons_append, cut, later]
    simp

end Pieces

theorem plain_parse (text : String) : (parse text).Plain where
  nonempty := by simpa [parse] using pieces_ne_nil false text.toList
  unmarked s hs := by
    obtain ⟨piece, cut, rfl⟩ := List.mem_map.mp hs
    simpa using not_mem_of_mem_pieces cut

theorem parse_text {path : FieldPath} (h : path.Plain) : parse path.text = path := by
  rcases path with ⟨segments⟩
  obtain ⟨first, others, rfl⟩ := List.exists_cons_of_ne_nil h.nonempty
  have written : (text ⟨first :: others⟩).toList =
      (segmentText first).toList ++ others.flatMap fun s => '.' :: (segmentText s).toList := by
    rw [text, String.toList_intercalate, List.map_map]
    exact (intercalate_cons '.' _ _).trans (by rw [List.flatMap_map]; rfl)
  rw [parse, written, pieces_segments h.unmarked]
  simp

end FieldPath

/-- The paths that are read back from their texts are those that are read from some text. So reading a text, writing the
path and reading again gives the same path. -/
theorem paths_read_back :
    (∀ path : FieldPath, FieldPath.parse path.text = path ↔ path.Plain) ∧
      (∀ text, (FieldPath.parse text).Plain ∧
        FieldPath.parse (FieldPath.parse text).text = FieldPath.parse text) ∧
      (∀ path : ResourcePath, ResourcePath.parse path.text = path ↔ path.Segmented) ∧
      (∀ text, (ResourcePath.parse text).Segmented ∧
        ResourcePath.parse (ResourcePath.parse text).text = ResourcePath.parse text) ∧
      ∀ text key, DocumentKey.parse? text = some key → DocumentKey.parse? key.text = some key := by
  refine ⟨fun path => ⟨fun back => ?_, FieldPath.parse_text⟩, fun text => ⟨FieldPath.plain_parse text, ?_⟩,
    fun path => ⟨fun back => ?_, ResourcePath.parse_text⟩, fun text => ⟨ResourcePath.segmented_parse text, ?_⟩, ?_⟩
  · exact back ▸ FieldPath.plain_parse path.text
  · exact FieldPath.parse_text (FieldPath.plain_parse text)
  · exact back ▸ ResourcePath.segmented_parse path.text
  · exact ResourcePath.parse_text (ResourcePath.segmented_parse text)
  · intro text key read
    exact DocumentKey.parse?_text (DocumentKey.parsed_iff.mp ⟨text, read⟩)

/-- Dots in a segment and empty segments, a quote that is never closed, and slashes where none are needed. -/
theorem paths_read_back_of_quotes :
    let path : FieldPath := ⟨["a.b", "", "c", ""]⟩
    let key : DocumentKey := ⟨⟨["users", "alice"]⟩, by decide⟩
    path.text = "\x60a.b\x60..c." ∧ FieldPath.parse "\x60a.b\x60..c." = path ∧
      FieldPath.parse "a\x60.b" = ⟨["a.b"]⟩ ∧ FieldPath.parse (FieldPath.text ⟨["a\x60.b"]⟩) ≠ ⟨["a\x60.b"]⟩ ∧
      DocumentKey.parse? "/users//alice/" = some key ∧ DocumentKey.parse? key.text = some key := by
  intro path key
  obtain ⟨fields, -, -, -, keys⟩ := paths_read_back
  have text : path.text = "\x60a.b\x60..c." := by decide +kernel
  have plain : path.Plain := ⟨by decide, by decide +kernel⟩
  have read : DocumentKey.parse? "/users//alice/" = some key := by decide +kernel
  refine ⟨text, text ▸ (fields path).mpr plain, by decide +kernel, fun back => ?_, read, keys _ key read⟩
  exact absurd ((fields _).mp back).unmarked (by decide +kernel)

end DocQuery
