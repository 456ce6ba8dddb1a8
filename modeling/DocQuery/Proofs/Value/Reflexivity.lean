import DocQuery.Proofs.Value.Equality

/-! Where values differ from themselves. Equality and the total order treat a NaN oppositely, so equality is reflexive
on the values that hold none, and there it is what ties in the total order. -/
namespace DocQuery

mutual

/-- Whether a NaN occurs in a value, at any depth. -/
def Value.holdsNaN : Value → Bool
  | .double d => d.isNaN
  | .geo point => point.latitude.isNaN || point.longitude.isNaN
  | .array items => itemsHoldNaN items
  | .map entries => entriesHoldNaN entries
  | .vector components => components.any Double.isNaN
  | _ => false

def itemsHoldNaN : List Value → Bool
  | [] => false
  | v :: vs => v.holdsNaN || itemsHoldNaN vs

def entriesHoldNaN : List (String × Value) → Bool
  | [] => false
  | (_, v) :: rest => v.holdsNaN || entriesHoldNaN rest

end

theorem itemsHoldNaN_eq_false_iff {items : List Value} :
    itemsHoldNaN items = false ↔ ∀ v ∈ items, v.holdsNaN = false := by
  induction items with
  | nil => simp [itemsHoldNaN]
  | cons v vs ih => simp [itemsHoldNaN, ih]

theorem entriesHoldNaN_eq_false_iff {entries : Fields} :
    entriesHoldNaN entries = false ↔ ∀ e ∈ entries, e.2.holdsNaN = false := by
  induction entries with
  | nil => simp [entriesHoldNaN]
  | cons e es ih =>
    obtain ⟨k, v⟩ := e
    simp [entriesHoldNaN, ih]

theorem Double.equals_self (d : Double) : d.equals d = !d.isNaN := by
  simp [equals]

namespace Value

theorem equals_array_self {items : List Value} :
    (array items).equals (array items) ↔ ∀ v ∈ items, v.equals v := by
  rw [equals, itemsEqual_iff, List.forall₂_same]

/-- A map with distinct keys has every value at its own key. -/
theorem equals_map_self {entries : Fields} (distinct : (Entries.keys entries).Nodup) :
    (map entries).equals (map entries) ↔ ∀ e ∈ entries, e.2.equals e.2 := by
  rw [equals, beq_self_eq_true, Bool.true_and, entriesEqual_iff]
  refine forall₂_congr fun e he => ?_
  simp only [Entries.find?_of_mem distinct he, Option.some.injEq, exists_eq_left']

theorem equals_vector_self {components : List Double} :
    (vector components).equals (vector components) ↔ ∀ d ∈ components, d.isNaN = false := by
  simp only [equals, componentsEqual_iff, List.forall₂_same, Double.equals_self, Bool.not_eq_true']

theorem equals_self_iff {v : Value} (distinct : v.distinctKeys) : v.equals v ↔ v.holdsNaN = false := by
  induction v with
  | double d =>
    rw [equals, numbersEqual, Double.equals_self, holdsNaN, Bool.not_eq_true']
  | geo point =>
    rw [equals, Double.equals_self, Double.equals_self, holdsNaN, Bool.and_eq_true, Bool.or_eq_false_iff,
      Bool.not_eq_true', Bool.not_eq_true']
  | array items ih =>
    rw [distinctKeys_array] at distinct
    rw [equals_array_self, holdsNaN, itemsHoldNaN_eq_false_iff]
    exact forall₂_congr fun v hv => ih v hv (distinct v hv)
  | map entries ih =>
    rw [distinctKeys_map] at distinct
    rw [equals_map_self distinct.1, holdsNaN, entriesHoldNaN_eq_false_iff]
    exact forall₂_congr fun e he => ih e he (distinct.2 e he)
  | vector components =>
    rw [equals_vector_self, holdsNaN, List.any_eq_false]
    simp only [Bool.not_eq_true]
  | _ => simp [equals, holdsNaN]

/-- A tie in the total order is equality as soon as one side holds no NaN: ties compare alike with everything. -/
theorem order_eq_iff_equals {a b : Value} (ha : a.distinctKeys) (hb : b.distinctKeys) (number : b.holdsNaN = false) :
    a.order b = .eq ↔ a.equals b := by
  rw [ties_equal a b ha hb]
  constructor
  · intro tie
    have same : a.form.compare? = b.form.compare? := a.form.compare?_of_tie b.form tie
    have reflexive := (ties_equal b b hb hb).mp ((equals_self_iff hb).mpr number)
    rwa [compare?, same]
  · intro equal
    exact Option.some.inj (a.form.compare?_extends b.form .eq equal)

/-- A value equals itself if and only if no NaN occurs in it, and without NaN the equal values are those that tie in the
total order. -/
theorem reflexive_iff_no_nan (a b : Value) (ha : a.distinctKeys) (hb : b.distinctKeys) :
    (a.equals a ↔ a.holdsNaN = false) ∧
      (a.holdsNaN = false → b.holdsNaN = false → (a.order b = .eq ↔ a.equals b)) :=
  ⟨equals_self_iff ha, fun _ => order_eq_iff_equals ha hb⟩

/-- A coordinate that is no number, inside an array inside a map; and a vector next to the map that stands for it. -/
theorem reflexive_iff_no_nan_in_depth :
    let hidden := map [("area", array [geo ⟨.one, .nan⟩])]
    let vectors := array [vector [.negativeZero], integer 1]
    let maps := array [map [("value", array [integer 0]), ("__type__", string "__vector__")], double .one]
    hidden.distinctKeys ∧ vectors.distinctKeys ∧ maps.distinctKeys ∧ vectors.holdsNaN = false ∧
      maps.holdsNaN = false ∧ ¬ hidden.equals hidden ∧ vectors.equals vectors ∧ vectors.order maps = .eq := by
  intro hidden vectors maps
  have distinct : hidden.distinctKeys ∧ vectors.distinctKeys ∧ maps.distinctKeys := by decide +kernel
  have numbers : vectors.holdsNaN = false ∧ maps.holdsNaN = false := by decide +kernel
  have unequal : ¬ hidden.equals hidden := by
    rw [(reflexive_iff_no_nan hidden hidden distinct.1 distinct.1).1]
    decide +kernel
  obtain ⟨reflexive, ties⟩ := reflexive_iff_no_nan vectors maps distinct.2.1 distinct.2.2
  exact ⟨distinct.1, distinct.2.1, distinct.2.2, numbers.1, numbers.2, unequal, reflexive.mpr numbers.1,
    (ties numbers.1 numbers.2).mpr (by decide +kernel)⟩

end Value
end DocQuery
