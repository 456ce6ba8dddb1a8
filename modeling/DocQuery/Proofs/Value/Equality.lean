import DocQuery.Proofs.Value.DistinctKeys
import DocQuery.Proofs.Value.DomainOrder
import DocQuery.Value.Equality

/-! Equality looks entries up by key while the domain order pairs them off in sorted order; on maps with
distinct keys both find the same ties. -/
namespace DocQuery

/-- Equality with the value is a tie in the domain order. -/
def TiesEqual (a : Value) : Prop :=
  ∀ b : Value, a.distinctKeys → b.distinctKeys → (a.equals b ↔ a.compare? b = some .eq)

theorem Value.domain_form (v : Value) : v.form.domain = v.domain := by
  cases v <;> rfl

theorem Value.equals_of_domain_ne {a b : Value} (h : a.domain ≠ b.domain) : a.equals b = false := by
  cases a <;> cases b <;> first | rfl | exact absurd rfl h

/-- Values of different domains neither are equal nor tie. -/
theorem equals_iff_of_other_domain {a b : Value} (h : (a.domain == b.domain) = false) :
    a.equals b ↔ a.compare? b = some .eq := by
  have other : a.domain ≠ b.domain := beq_eq_false_iff_ne.mp h
  have apart : a.form.domain ≠ b.form.domain := by rwa [a.domain_form, b.domain_form]
  rw [Value.equals_of_domain_ne other, Value.compare?, Form.compare?_of_domain_ne apart]
  simp

theorem beq_iff_tie [BEq α] [LawfulBEq α] {order : α → α → Ordering} [Std.LawfulEqCmp order] {a b : α} :
    a == b ↔ some (order a b) = some .eq := by
  rw [beq_iff_eq, Option.some_inj, Std.LawfulEqCmp.compare_eq_iff_eq]

theorem itemsEqual_iff {as bs : List Value} :
    itemsEqual as bs ↔ List.Forall₂ (fun a b => a.equals b) as bs := by
  induction as generalizing bs with
  | nil => cases bs <;> simp [itemsEqual]
  | cons a as ih => cases bs <;> simp [itemsEqual, ih]

theorem entriesEqual_iff {as bs : Fields} :
    entriesEqual as bs ↔ ∀ a ∈ as, ∃ v, Entries.find? a.1 bs = some v ∧ a.2.equals v := by
  induction as with
  | nil => simp [entriesEqual]
  | cons a as ih =>
    obtain ⟨k, v⟩ := a
    simp only [entriesEqual, Bool.and_eq_true, ih, List.forall_mem_cons]
    cases Entries.find? k bs <;> simp

theorem componentsEqual_iff {ds es : List Double} :
    componentsEqual ds es ↔ List.Forall₂ (fun d e => d.equals e) ds es := by
  induction ds generalizing es with
  | nil => cases es <;> simp [componentsEqual]
  | cons d ds ih => cases es <;> simp [componentsEqual, ih]

theorem compare?_array {as bs : List Value} : (Value.array as).compare? (.array bs) = some .eq ↔
    List.Forall₂ (fun a b => a.compare? b = some .eq) as bs := by
  simp only [Value.compare?, Value.form, Form.compare?, compareItems?_eq, lexCompare?_eq_some_eq,
    formList_eq_map, forall₂_map_map]

theorem compare?_map {as bs : Fields} : (Value.map as).compare? (.map bs) = some .eq ↔
    List.Forall₂ (fun a b => a.1 = b.1 ∧ a.2.compare? b.2 = some .eq)
      (Entries.sortByKey as) (Entries.sortByKey bs) := by
  simp only [Value.compare?, Value.form, Form.compare?, compareEntries?_eq, lexCompare?_eq_some_eq,
    formEntries_eq_map, Entries.sortByKey_map, forall₂_map_map, comparePair?, ifTied_eq_some_eq, Option.some.injEq,
    Std.LawfulEqCmp.compare_eq_iff_eq]

theorem equals_array_iff {as bs : List Value} (items : ∀ a ∈ as, TiesEqual a)
    (ha : (Value.array as).distinctKeys) (hb : (Value.array bs).distinctKeys) :
    (Value.array as).equals (.array bs) ↔ (Value.array as).compare? (.array bs) = some .eq := by
  rw [Value.distinctKeys_array] at ha hb
  change itemsEqual as bs ↔ _
  rw [compare?_array, itemsEqual_iff]
  exact forall₂_congr_mem fun a ma b mb => items a ma b (ha a ma) (hb b mb)

theorem equals_map_iff {as bs : Fields} (values : ∀ a ∈ as, TiesEqual a.2)
    (ha : (Value.map as).distinctKeys) (hb : (Value.map bs).distinctKeys) :
    (Value.map as).equals (.map bs) ↔ (Value.map as).compare? (.map bs) = some .eq := by
  rw [Value.distinctKeys_map] at ha hb
  have partners : (∀ a ∈ as, ∃ v, Entries.find? a.1 bs = some v ∧ a.2.equals v) ↔
      ∀ a ∈ as, ∃ v, Entries.find? a.1 bs = some v ∧ a.2.compare? v = some .eq := by
    refine forall₂_congr fun a ma => exists_congr fun v => and_congr_right fun found => ?_
    exact values a ma v (ha.2 a ma) (hb.2 _ (Entries.mem_of_find? found))
  change as.length == bs.length && entriesEqual as bs ↔ _
  rw [compare?_map, Entries.forall₂_sortByKey_iff (R := fun v w => v.compare? w = some .eq) ha.1 hb.1,
    Bool.and_eq_true, beq_iff_eq, entriesEqual_iff, partners]

theorem vectorEqualsMap_eq (components : List Double) (entries : Fields) :
    vectorEqualsMap components entries =
      (Value.map (Value.vectorEntries components)).equals (.map entries) := by
  have items (vs : List Value) :
      componentsEqualItems components vs = itemsEqual (components.map .double) vs := by
    induction components generalizing vs with
    | nil => cases vs <;> rfl
    | cons d ds ih => cases vs <;> simp [componentsEqualItems, itemsEqual, Value.equals, ih]
  rw [vectorEqualsMap, Value.equals]
  simp only [Value.vectorEntries, entriesEqual, Bool.and_true, Bool.and_assoc]
  congr 1
  · exact Bool.beq_comm
  congr 1
  · rcases Entries.find? Value.vectorTypeKey entries with _ | v
    · rfl
    · cases v <;> simp [Value.equals, Bool.beq_comm]
  · rcases Entries.find? Value.vectorItemsKey entries with _ | v
    · rfl
    · cases v <;> simp [Value.equals, items]

theorem componentsEqual_eq (as bs : List Double) : componentsEqual as bs =
    (Value.map (Value.vectorEntries as)).equals (.map (Value.vectorEntries bs)) := by
  rw [← vectorEqualsMap_eq]
  simp [vectorEqualsMap, Value.vectorEntries, Entries.find?, Value.vectorTypeKey, Value.vectorItemsKey]
  induction as generalizing bs with
  | nil => cases bs <;> rfl
  | cons d ds ih =>
    cases bs with
    | nil => rfl
    | cons e es => simp [componentsEqual, componentsEqualItems, numbersEqual, ih]

theorem equals_iff_compare? (d e : Double) : d.equals e ↔ d.compare? e = some .eq := by
  by_cases hd : d.isNaN <;> by_cases he : e.isNaN <;> simp [Double.equals, Double.compare?, hd, he]

theorem numbersEqual_integer_iff (d : Double) (i : Int64) :
    numbersEqual d (.integer i) ↔ Number.compare? (.double d) (.integer i) = some .eq := by
  by_cases hd : d.isNaN <;> simp [numbersEqual, Number.compare?, hd]

theorem Number.tie_comm {m n : Number} : m.compare? n = some .eq ↔ n.compare? m = some .eq := by
  rw [compare?_mirrors n m]
  cases n.compare? m <;> simp

theorem GeoPoint.equals_iff_compare? (a b : GeoPoint) :
    (a.latitude.equals b.latitude && a.longitude.equals b.longitude) ↔ a.compare? b = some .eq := by
  rw [compare?_eq, ifTied_eq_some_eq, Bool.and_eq_true]
  exact and_congr (DocQuery.equals_iff_compare? _ _) (DocQuery.equals_iff_compare? _ _)

theorem tiesEqual_string (s : String) : TiesEqual (.string s) := by
  intro b _ _
  cases b with
  | string => exact beq_iff_tie
  | _ => exact equals_iff_of_other_domain rfl

theorem tiesEqual_double (d : Double) : TiesEqual (.double d) := by
  intro b _ _
  cases b with
  | integer i => exact numbersEqual_integer_iff d i
  | double e => exact equals_iff_compare? d e
  | _ => exact equals_iff_of_other_domain rfl

theorem tiesEqual_vectorEntries (components : List Double) :
    ∀ e ∈ Value.vectorEntries components, TiesEqual e.2 := by
  intro e he
  simp only [Value.vectorEntries, List.mem_cons, List.not_mem_nil, or_false] at he
  rcases he with rfl | rfl
  · exact tiesEqual_string _
  · intro b ha hb
    cases b with
    | array bs =>
      refine equals_array_iff (fun a ma => ?_) ha hb
      obtain ⟨d, _, rfl⟩ := List.mem_map.mp ma
      exact tiesEqual_double d
    | _ => exact equals_iff_of_other_domain rfl

theorem equals_vector_iff (components : List Double) {entries : Fields}
    (h : (Value.map entries).distinctKeys) : vectorEqualsMap components entries ↔
      (Value.vector components).compare? (.map entries) = some .eq := by
  rw [vectorEqualsMap_eq, equals_map_iff (tiesEqual_vectorEntries components)
    (Value.distinctKeys_vectorEntries components) h, Value.compare?, Value.compare?, form_vector]

theorem ties_equal (a : Value) : TiesEqual a := by
  induction a with
  | null =>
    intro b _ _
    cases b with
    | null => exact iff_of_true rfl rfl
    | _ => exact equals_iff_of_other_domain rfl
  | boolean c =>
    intro b _ _
    cases b with
    | boolean => exact beq_iff_tie
    | _ => exact equals_iff_of_other_domain rfl
  | integer i =>
    intro b _ _
    cases b with
    | integer j =>
      change i == j ↔ some (compare i.toInt j.toInt) = some .eq
      rw [Option.some_inj, Std.LawfulEqCmp.compare_eq_iff_eq, Int64.toInt_inj, beq_iff_eq]
    | double e => exact (numbersEqual_integer_iff e i).trans Number.tie_comm
    | _ => exact equals_iff_of_other_domain rfl
  | double d => exact tiesEqual_double d
  | string s => exact tiesEqual_string s
  | timestamp t =>
    intro b _ _
    cases b with
    | timestamp => exact beq_iff_tie
    | _ => exact equals_iff_of_other_domain rfl
  | bytes bs =>
    intro b _ _
    cases b with
    | bytes => exact beq_iff_tie
    | _ => exact equals_iff_of_other_domain rfl
  | reference key =>
    intro b _ _
    cases b with
    | reference => exact beq_iff_tie
    | _ => exact equals_iff_of_other_domain rfl
  | geo point =>
    intro b _ _
    cases b with
    | geo other => exact point.equals_iff_compare? other
    | _ => exact equals_iff_of_other_domain rfl
  | array as ih =>
    intro b ha hb
    cases b with
    | array bs => exact equals_array_iff ih ha hb
    | _ => exact equals_iff_of_other_domain rfl
  | map as ih =>
    intro b ha hb
    cases b with
    | map bs => exact equals_map_iff ih ha hb
    | vector components =>
      refine (equals_vector_iff components ha).trans ?_
      rw [Value.compare?, Value.compare?, Form.compare?_mirrors (Value.map as).form]
      cases (Value.map as).form.compare? (Value.vector components).form <;> simp
    | _ => exact equals_iff_of_other_domain rfl
  | vector components =>
    intro b ha hb
    cases b with
    | map bs => exact equals_vector_iff components hb
    | vector others =>
      change componentsEqual components others ↔ _
      rw [componentsEqual_eq, equals_map_iff (tiesEqual_vectorEntries components)
        (Value.distinctKeys_vectorEntries components) (Value.distinctKeys_vectorEntries others),
        Value.compare?, Value.compare?, form_vector, form_vector]
    | _ => exact equals_iff_of_other_domain rfl

namespace Value

/-- Equality is a tie of the domain order, which is reversed with its arguments, part of the total
order, and transitive, definedness included. -/
theorem relations_agree (a b c : Value) :
    (a.distinctKeys → b.distinctKeys → (a.equals b ↔ a.compare? b = some .eq)) ∧
      b.compare? a = (a.compare? b).map Ordering.swap ∧
      (∀ o, a.compare? b = some o → a.order b = o) ∧
      ∀ o p, a.compare? b = some o → b.compare? c = some p → o ≠ .gt → p ≠ .gt →
        a.compare? c = some (if o = .lt ∨ p = .lt then .lt else .eq) := by
  refine ⟨ties_equal a b, a.form.compare?_mirrors b.form, ?_, ?_⟩
  · intro o h
    exact Option.some.inj (a.form.compare?_extends b.form o h)
  · intro o p hab hbc ho hp
    have ends := a.form.compare?_composes b.form c.form o p hab hbc
      (Ordering.isLE_iff_ne_gt.mpr ho) (Ordering.isLE_iff_ne_gt.mpr hp)
    rw [compare?, ends]
    cases o <;> cases p <;> first | rfl | contradiction

theorem relations_agree_on_mixed_maps :
    let vector := vector [.one]
    let first := map [("value", array [integer 1]), ("__type__", string "__vector__")]
    let second := map [("__type__", string "__vector__"), ("value", array [integer 2])]
    (vector.equals first ↔ vector.compare? first = some .eq) ∧ vector.order first = .eq ∧
      vector.compare? second = some .lt := by
  intro vector first second
  have distinct : vector.distinctKeys ∧ first.distinctKeys := by decide +kernel
  have tie : vector.compare? first = some .eq := by
    simp only [vector, first, compare?, form, formEntries, Entries.sortByKey_pair]
    decide +kernel
  have less : first.compare? second = some .lt := by
    simp only [first, second, compare?, form, formEntries, Entries.sortByKey_pair]
    decide +kernel
  have agree := relations_agree vector first second
  exact ⟨agree.1 distinct.1 distinct.2, agree.2.2.1 _ tie,
    agree.2.2.2 _ _ tie less (by decide) (by decide)⟩

end Value
end DocQuery
