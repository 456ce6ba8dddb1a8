import DocQuery.Proofs.Value.Canonical
import DocQuery.Proofs.Value.Equality

/-! A vector and the map that stands for it are one value to queries: writing the map for each vector, at any depth,
changes no equality, no order and no canonical text. -/
namespace DocQuery

mutual

/-- The value with a map for each of its vectors, at any depth. -/
def Value.spelledOut : Value → Value
  | .array items => .array (itemsSpelledOut items)
  | .map entries => .map (entriesSpelledOut entries)
  | .vector components => .map (Value.vectorEntries components)
  | v => v

def itemsSpelledOut : List Value → List Value
  | [] => []
  | v :: vs => v.spelledOut :: itemsSpelledOut vs

def entriesSpelledOut : List (String × Value) → List (String × Value)
  | [] => []
  | (k, v) :: rest => (k, v.spelledOut) :: entriesSpelledOut rest

end

theorem itemsSpelledOut_eq_map (items : List Value) : itemsSpelledOut items = items.map Value.spelledOut := by
  induction items with
  | nil => rfl
  | cons v vs ih => rw [itemsSpelledOut, ih, List.map_cons]

theorem entriesSpelledOut_eq_map (entries : Fields) :
    entriesSpelledOut entries = entries.map fun e => (e.1, e.2.spelledOut) := by
  induction entries with
  | nil => rfl
  | cons e es ih => rw [entriesSpelledOut, ih, List.map_cons]

theorem keys_entriesSpelledOut (entries : Fields) :
    Entries.keys (entriesSpelledOut entries) = Entries.keys entries := by
  rw [entriesSpelledOut_eq_map, Entries.keys, Entries.keys, List.map_map]
  rfl

namespace Value

/-- The orders see a vector as its map already. -/
theorem form_spelledOut (v : Value) : v.spelledOut.form = v.form := by
  induction v with
  | array items ih =>
    have members : (items.map spelledOut).map form = items.map form := by
      rw [List.map_map]
      exact List.map_congr_left ih
    rw [spelledOut, form, form, itemsSpelledOut_eq_map, formList_eq_map, formList_eq_map, members]
  | map entries ih =>
    have members : (entries.map fun e => (e.1, e.2.spelledOut)).map (fun e => (e.1, e.2.form)) =
        entries.map fun e => (e.1, e.2.form) := by
      rw [List.map_map]
      exact List.map_congr_left fun e he => congrArg (e.1, ·) (ih e he)
    rw [spelledOut, form, form, entriesSpelledOut_eq_map, formEntries_eq_map, formEntries_eq_map, members]
  | vector components => exact (form_vector components).symm
  | _ => rfl

theorem distinctKeys_spelledOut {v : Value} (distinct : v.distinctKeys) : v.spelledOut.distinctKeys := by
  induction v with
  | array items ih =>
    rw [distinctKeys_array] at distinct
    rw [spelledOut, distinctKeys_array, itemsSpelledOut_eq_map]
    intro v hv
    obtain ⟨item, member, rfl⟩ := List.mem_map.mp hv
    exact ih item member (distinct item member)
  | map entries ih =>
    rw [distinctKeys_map] at distinct
    rw [spelledOut, distinctKeys_map, keys_entriesSpelledOut, entriesSpelledOut_eq_map]
    refine ⟨distinct.1, ?_⟩
    intro e he
    obtain ⟨entry, member, rfl⟩ := List.mem_map.mp he
    exact ih entry member (distinct.2 entry member)
  | vector components => exact distinctKeys_vectorEntries components
  | _ => exact distinct

/-- Whether values are equal can be told from their forms. -/
theorem equals_congr_form {a a' b b' : Value} (ha : a.distinctKeys) (ha' : a'.distinctKeys) (hb : b.distinctKeys)
    (hb' : b'.distinctKeys) (left : a.form = a'.form) (right : b.form = b'.form) : a.equals b = a'.equals b' := by
  have same : a.compare? b = a'.compare? b' := by
    rw [compare?, compare?, left, right]
  rw [Bool.eq_iff_iff, ties_equal a b ha hb, ties_equal a' b' ha' hb', same]

theorem canonical_congr_form {a b : Value} (same : a.form = b.form) : a.canonical = b.canonical := by
  apply String.toList_injective
  rw [toList_canonical, toList_canonical, same]

/-- Nothing that relates values tells the vectors of either from their maps. -/
theorem relations_of_spelledOut (a b : Value) :
    (a.distinctKeys → b.distinctKeys →
      a.spelledOut.equals b = a.equals b ∧ a.equals b.spelledOut = a.equals b ∧
        a.spelledOut.equals b.spelledOut = a.equals b) ∧
      (a.spelledOut.compare? b = a.compare? b ∧ a.compare? b.spelledOut = a.compare? b ∧
        a.spelledOut.compare? b.spelledOut = a.compare? b) ∧
      (a.spelledOut.order b = a.order b ∧ a.order b.spelledOut = a.order b ∧
        a.spelledOut.order b.spelledOut = a.order b) ∧
      a.spelledOut.canonical = a.canonical := by
  have left : a.spelledOut.form = a.form := form_spelledOut a
  have right : b.spelledOut.form = b.form := form_spelledOut b
  refine ⟨?_, ?_, ?_, canonical_congr_form left⟩
  · intro ha hb
    have ha' : a.spelledOut.distinctKeys := distinctKeys_spelledOut ha
    have hb' : b.spelledOut.distinctKeys := distinctKeys_spelledOut hb
    exact ⟨equals_congr_form ha' ha hb hb left rfl, equals_congr_form ha ha hb' hb rfl right,
      equals_congr_form ha' ha hb' hb left right⟩
  · simp only [compare?, left, right, and_self]
  · simp only [order, left, right, and_self]

/-- A vector of a negative zero inside an array, and in its place the map with an integer for it. -/
theorem relations_of_spelled_out_zero :
    let vectors := array [vector [.negativeZero]]
    let maps := array [map [("value", array [integer 0]), ("__type__", string "__vector__")]]
    vectors.distinctKeys ∧ maps.distinctKeys ∧ vectors.spelledOut.equals maps = true ∧
      vectors.equals maps.spelledOut = true ∧ vectors.spelledOut.order maps = .eq := by
  intro vectors maps
  have distinct : vectors.distinctKeys ∧ maps.distinctKeys := by decide +kernel
  have equal : vectors.equals maps = true := by decide +kernel
  have tie : vectors.order maps = .eq := by
    simp only [vectors, maps, order, form, formList, formEntries, Entries.sortByKey_pair]
    decide +kernel
  obtain ⟨equalities, _, orders, _⟩ := relations_of_spelledOut vectors maps
  obtain ⟨left, right, _⟩ := equalities distinct.1 distinct.2
  exact ⟨distinct.1, distinct.2, left.trans equal, right.trans equal, orders.1.trans tie⟩

end Value
end DocQuery
