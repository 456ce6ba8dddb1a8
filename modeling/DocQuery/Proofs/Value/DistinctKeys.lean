import Mathlib.Data.List.Forall2
import DocQuery.Proofs.Value.Form

/-! Values as programs build them: no map holds a key twice, at any depth. -/
namespace DocQuery

mutual

def Value.distinctKeys : Value → Bool
  | .array items => itemsDistinct items
  | .map entries => decide (Entries.keys entries).Nodup && entriesDistinct entries
  | _ => true

def itemsDistinct : List Value → Bool
  | [] => true
  | v :: vs => v.distinctKeys && itemsDistinct vs

def entriesDistinct : List (String × Value) → Bool
  | [] => true
  | (_, v) :: rest => v.distinctKeys && entriesDistinct rest

end

theorem itemsDistinct_iff {items : List Value} :
    itemsDistinct items ↔ ∀ v ∈ items, v.distinctKeys := by
  induction items with
  | nil => simp [itemsDistinct]
  | cons v vs ih => simp [itemsDistinct, ih]

theorem entriesDistinct_iff {entries : Fields} :
    entriesDistinct entries ↔ ∀ e ∈ entries, e.2.distinctKeys := by
  induction entries with
  | nil => simp [entriesDistinct]
  | cons e es ih =>
    obtain ⟨k, v⟩ := e
    simp [entriesDistinct, ih]

namespace Value

@[simp] theorem distinctKeys_array {items : List Value} :
    (array items).distinctKeys ↔ ∀ v ∈ items, v.distinctKeys := itemsDistinct_iff

@[simp] theorem distinctKeys_map {entries : Fields} : (map entries).distinctKeys ↔
    (Entries.keys entries).Nodup ∧ ∀ e ∈ entries, e.2.distinctKeys := by
  simp [distinctKeys, entriesDistinct_iff]

theorem distinctKeys_vectorEntries (components : List Double) :
    (map (vectorEntries components)).distinctKeys := by
  rw [distinctKeys_map]
  refine ⟨by simp [vectorEntries, Entries.keys, vectorTypeKey, vectorItemsKey], ?_⟩
  intro e he
  simp only [vectorEntries, List.mem_cons, List.not_mem_nil, or_false] at he
  rcases he with rfl | rfl
  · rfl
  · rw [distinctKeys_array]
    intro v hv
    obtain ⟨d, _, rfl⟩ := List.mem_map.mp hv
    rfl

end Value
end DocQuery
