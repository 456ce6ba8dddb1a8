import DocQuery.Proofs.Document.Reading

/-! A path as a lens on fields. What is written at a path is read there and inside it, a second write covers up the
first, nothing apart from the path changes, and each map on the way keeps its entries in order, with at most one new
entry at its end. -/
namespace DocQuery

/-- What is found inside a value by going from map to map. -/
def Value.follow? (v : Value) : List String → Option Value
  | [] => some v
  | key :: rest =>
    match v with
    | .map inner => (Entries.find? key inner).bind (·.follow? rest)
    | _ => none

/-- The entries of the map at a path, none where there is no map. The empty path leads to the fields themselves. -/
def entriesAt (fields : Fields) (level : List String) : Fields := level.foldl mapBelow fields

variable {path level rest : List String}

theorem Value.follow?_map (inner : Fields) (nonempty : path ≠ []) :
    (Value.map inner).follow? path = getField inner path := by
  induction path generalizing inner with
  | nil => contradiction
  | cons key rest ih =>
    rw [Value.follow?]
    by_cases long : rest = []
    · subst long
      rw [getField]
      cases Entries.find? key inner <;> rfl
    · rw [getField_cons _ _ long, mapBelow]
      cases Entries.find? key inner with
      | none => exact (getField_nil _).symm
      | some v =>
        cases v with
        | map deeper => exact ih deeper long
        | _ =>
          obtain ⟨k, ks, rfl⟩ := List.exists_cons_of_ne_nil long
          exact (getField_nil _).symm

theorem getField_setField_below (fields : Fields) (v : Value) (nonempty : path ≠ []) (rest : List String) :
    getField (setField fields path v) (path ++ rest) = v.follow? rest := by
  by_cases long : rest = []
  · rw [long, List.append_nil, getField_setField fields v nonempty, Value.follow?]
  · rw [getField_append _ nonempty long, getField_setField fields v nonempty]
    cases v with
    | map inner => exact (Value.follow?_map inner long).symm
    | _ =>
      obtain ⟨k, ks, rfl⟩ := List.exists_cons_of_ne_nil long
      rfl

theorem written_of_ne_nil (below : Fields) (v : Value) (long : rest ≠ []) :
    written below rest v = .map (setField below rest v) := by
  obtain ⟨k, ks, rfl⟩ := List.exists_cons_of_ne_nil long
  rfl

/-- Of two writes to a path the second is left, and no trace of the first. -/
theorem setField_setField (fields : Fields) (path : List String) (v w : Value) :
    setField (setField fields path v) path w = setField fields path w := by
  induction path generalizing fields with
  | nil => rfl
  | cons key rest ih =>
    simp only [setField_cons, Entries.insert_insert]
    by_cases long : rest = []
    · rw [long, written, written]
    · rw [mapBelow_written _ _ _ _ long, written_of_ne_nil _ _ long, written_of_ne_nil _ _ long, ih]

theorem mapBelow_setField (fields : Fields) (key : String) (v : Value) (long : rest ≠ []) :
    mapBelow (setField fields (key :: rest) v) key = setField (mapBelow fields key) rest v := by
  rw [setField_cons, mapBelow_written _ _ _ _ long]

/-- On its way, a write puts one entry into the map at each level. -/
theorem entriesAt_setField (fields : Fields) (level : List String) (key : String) (rest : List String) (v : Value) :
    entriesAt (setField fields (level ++ key :: rest) v) level =
      Entries.insert key (written (mapBelow (entriesAt fields level) key) rest v) (entriesAt fields level) := by
  induction level generalizing fields with
  | nil => exact setField_cons fields key rest v
  | cons k ks ih =>
    rw [List.cons_append, entriesAt, List.foldl_cons, mapBelow_setField _ _ _ (by simp)]
    exact ih (mapBelow fields k)

/-- After a write there is a map at each level above it. -/
theorem getField_level (fields : Fields) (nonempty : level ≠ []) (key : String) (rest : List String) (v : Value) :
    let after := setField fields (level ++ key :: rest) v
    getField after level = some (.map (entriesAt after level)) := by
  induction level generalizing fields with
  | nil => contradiction
  | cons k ks ih =>
    simp only [List.cons_append, entriesAt, List.foldl_cons]
    rw [mapBelow_setField _ _ _ (by simp)]
    by_cases deep : ks = []
    · rw [deep, setField_cons, getField, Entries.find?_insert, if_pos rfl, written_of_ne_nil _ _ (by simp)]
      rfl
    · rw [getField_cons _ _ deep, mapBelow_setField _ _ _ (by simp)]
      exact ih (mapBelow fields k) deep

/-- Reading and writing at a path are the two halves of a lens. The empty path leads nowhere. -/
theorem setField_lens (fields : Fields) (v : Value) (nonempty : path ≠ []) :
    let after := setField fields path v
    getField after path = some v ∧
      (∀ q, ¬ path <+: q → ¬ q <+: path → getField after q = getField fields q) ∧
      (∀ rest, getField after (path ++ rest) = v.follow? rest) ∧
      (∀ w, setField after path w = setField fields path w) ∧
      (∀ level key rest, path = level ++ key :: rest →
        let before := entriesAt fields level
        (level ≠ [] → getField after level = some (.map (entriesAt after level))) ∧
          Entries.erase key (entriesAt after level) = Entries.erase key before ∧
          Entries.keys (entriesAt after level) =
            if key ∈ Entries.keys before then Entries.keys before else Entries.keys before ++ [key]) ∧
      setField fields [] v = fields := by
  intro after
  refine ⟨getField_setField fields v nonempty, fun q => getField_setField_apart fields v,
    getField_setField_below fields v nonempty, setField_setField fields path v, ?_, rfl⟩
  rintro level key rest rfl before
  refine ⟨fun deep => getField_level fields deep key rest v, ?_, ?_⟩
  · rw [entriesAt_setField, Entries.erase_insert]
  · rw [entriesAt_setField, Entries.keys_insert]

/-- A write below a vector, which gives way to a map, between two other entries of a map. -/
theorem setField_lens_through_vector :
    let fields : Fields := [("name", .string "pen"),
      ("size", .map [("unit", .null), ("box", .vector [.one]), ("width", .integer 4)])]
    let path := ["size", "box", "outer"]
    let v : Value := .map [("height", .integer 5)]
    let after := setField fields path v
    path ≠ [] ∧ getField after path = some v ∧ getField after ["size", "width"] = some (.integer 4) ∧
      getField after ["size", "box", "outer", "height"] = some (.integer 5) ∧
      setField after path .null = setField fields path .null ∧
      Entries.keys (entriesAt after ["size"]) = ["unit", "box", "width"] ∧
      Entries.keys (entriesAt after ["size", "box"]) = ["outer"] := by
  intro fields path v after
  have nonempty : path ≠ [] := by decide
  obtain ⟨written, apart, below, again, levels, _⟩ := setField_lens fields v nonempty
  have width := apart ["size", "width"] (by decide) (by decide)
  exact ⟨nonempty, written, width, below ["height"], again .null, (levels ["size"] "box" ["outer"] rfl).2.2,
    (levels ["size", "box"] "outer" [] rfl).2.2⟩

end DocQuery
