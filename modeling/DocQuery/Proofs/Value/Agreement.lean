import DocQuery.Proofs.Entries.Agreement
import DocQuery.Proofs.Value.Canonical
import DocQuery.Proofs.Value.Equality

/-! Values that agree up to the order of map entries and, at the lower of two grades, up to the spelling
of numbers. The order, the domain order, equality and canonical texts cannot tell them apart. -/
namespace DocQuery

/-- Whether a map bears the mark of those that stand for vectors. -/
def isMarked (entries : Fields) : Bool :=
  match Entries.find? Value.vectorTypeKey entries with
  | some (.string name) => name == Value.vectorTypeName
  | _ => false

mutual

/-- Whether no map, at any depth, is marked like one that stands for a vector. -/
def Value.unmarked : Value → Bool
  | .array items => itemsUnmarked items
  | .map entries => !isMarked entries && entriesUnmarked entries
  | _ => true

def itemsUnmarked : List Value → Bool
  | [] => true
  | v :: vs => v.unmarked && itemsUnmarked vs

def entriesUnmarked : List (String × Value) → Bool
  | [] => true
  | (_, v) :: rest => v.unmarked && entriesUnmarked rest

end

/-- Numbers that are one or, where spelling does not count, tie. -/
def Number.Agrees (exact : Bool) (m n : Number) : Prop :=
  if exact then m = n else m.order n = .eq

def Double.Agrees (exact : Bool) (d e : Double) : Prop := Number.Agrees exact (.double d) (.double e)

/-- Agreement of values without repeated keys whose references satisfy a condition. A vector agrees with
vectors only, not with the map that stands for it. -/
inductive Value.Agrees (legible : DocumentKey → Prop) (exact : Bool) : Value → Value → Prop
  | null : Agrees legible exact .null .null
  | boolean (b : Bool) : Agrees legible exact (.boolean b) (.boolean b)
  | integer (i : Int64) : Agrees legible exact (.integer i) (.integer i)
  | double {d e : Double} : d.Agrees exact e → Agrees legible exact (.double d) (.double e)
  | integerDouble {i : Int64} {d : Double} : Number.Agrees exact (.integer i) (.double d) →
      Agrees legible exact (.integer i) (.double d)
  | doubleInteger {i : Int64} {d : Double} : Number.Agrees exact (.double d) (.integer i) →
      Agrees legible exact (.double d) (.integer i)
  | timestamp (t : Timestamp) : Agrees legible exact (.timestamp t) (.timestamp t)
  | string (s : String) : Agrees legible exact (.string s) (.string s)
  | bytes (bs : List UInt8) : Agrees legible exact (.bytes bs) (.bytes bs)
  | reference {key : DocumentKey} : legible key → Agrees legible exact (.reference key) (.reference key)
  | geo {a b : GeoPoint} : a.latitude.Agrees exact b.latitude → a.longitude.Agrees exact b.longitude →
      Agrees legible exact (.geo a) (.geo b)
  | array {as bs : List Value} : List.Forall₂ (Agrees legible exact) as bs →
      Agrees legible exact (.array as) (.array bs)
  | map {as bs : Fields} : (Entries.keys as).Nodup → (Entries.keys bs).Nodup →
      (∀ key, Option.Rel (Agrees legible exact) (Entries.find? key as) (Entries.find? key bs)) →
      Agrees legible exact (.map as) (.map bs)
  | vector {as bs : List Double} : List.Forall₂ (Double.Agrees exact) as bs →
      Agrees legible exact (.vector as) (.vector bs)

namespace Number.Agrees

variable {exact : Bool} {m n k : Number}

theorem order_eq (h : m.Agrees exact n) : m.order n = .eq := by
  cases exact with
  | false => exact h
  | true => exact (show m = n from h) ▸ Std.ReflCmp.compare_self

theorem refl (n : Number) : n.Agrees exact n := by
  cases exact with
  | false => exact Std.ReflCmp.compare_self
  | true => exact rfl

theorem symm (h : m.Agrees exact n) : n.Agrees exact m := by
  cases exact with
  | false => exact Std.OrientedCmp.eq_symm h
  | true => exact Eq.symm h

theorem trans (h : m.Agrees exact n) (h' : n.Agrees exact k) : m.Agrees exact k := by
  cases exact with
  | false => exact Std.TransCmp.eq_trans h h'
  | true => exact Eq.trans h h'

theorem relax (h : m.Agrees exact n) (grade : exact' = true → exact = true) : m.Agrees exact' n := by
  cases exact' with
  | false => exact h.order_eq
  | true =>
    cases grade rfl
    exact h

end Number.Agrees

theorem Double.eq_of_agrees {as bs : List Double} (h : List.Forall₂ (Double.Agrees true) as bs) : as = bs := by
  have same := map_eq_of_forall₂ (f := Number.double) (g := Number.double) h fun _ _ _ h => h
  exact List.map_injective_iff.mpr (fun _ _ => Number.double.inj) same

theorem order_array {as bs : List Value} : (Value.array as).order (.array bs) = .eq ↔
    List.Forall₂ (fun a b => a.order b = .eq) as bs := by
  simp only [Value.order, Value.form, Form.order, Form.orderItems_eq_iff,
    formList_eq_map, forall₂_map_map]

theorem order_map {as bs : Fields} : (Value.map as).order (.map bs) = .eq ↔
    List.Forall₂ (fun a b => a.1 = b.1 ∧ a.2.order b.2 = .eq)
      (Entries.sortByKey as) (Entries.sortByKey bs) := by
  simp only [Value.order, Value.form, Form.order, Form.orderEntries_eq_iff, formEntries_eq_map,
    Entries.sortByKey_map, forall₂_map_map, orderPair,
    Ordering.then_eq_eq, Std.LawfulEqCmp.compare_eq_iff_eq]

theorem order_vector {as bs : List Double} : (Value.vector as).order (.vector bs) = .eq ↔
    List.Forall₂ (fun d e => d.order e = .eq) as bs := by
  have reflexive (s : String) : compare s s = .eq := Std.ReflCmp.compare_self
  simp only [Value.order, Value.form, Form.ofVector, Form.order, Form.orderEntries_eq_iff,
    List.forall₂_cons, orderPair, Ordering.then_eq_eq, reflexive, Form.orderItems_eq_iff,
    forall₂_map_map, List.Forall₂.nil, true_and, and_true]
  rfl

theorem itemsSame_iff {as bs : List Value} :
    itemsSame as bs ↔ List.Forall₂ (fun a b => a.same b) as bs := by
  induction as generalizing bs with
  | nil => cases bs <;> simp [itemsSame]
  | cons a as ih => cases bs <;> simp [itemsSame, ih]

theorem entriesSame_iff {as bs : Fields} :
    entriesSame as bs ↔ ∀ a ∈ as, ∃ v, Entries.find? a.1 bs = some v ∧ a.2.same v := by
  induction as with
  | nil => simp [entriesSame]
  | cons a as ih =>
    obtain ⟨k, v⟩ := a
    simp only [entriesSame, Bool.and_eq_true, ih, List.forall_mem_cons]
    cases Entries.find? k bs <;> simp

namespace Value.Agrees

variable {legible : DocumentKey → Prop} {exact : Bool}

theorem map_iff {as : Fields} {w : Value} : Agrees legible exact (.map as) w ↔
    ∃ bs, w = .map bs ∧ Entries.Agree (Agrees legible exact) as bs := by
  constructor
  · intro h
    cases h with
    | map left right related => exact ⟨_, rfl, left, right, related⟩
  · rintro ⟨bs, rfl, h⟩
    exact .map h.left h.right h.related

theorem number_iff {m : Number} {w : Value} : Agrees legible exact m.toValue w ↔
    ∃ n : Number, w = n.toValue ∧ m.Agrees exact n := by
  constructor
  · intro h
    cases m with
    | integer i =>
      cases h with
      | integer => exact ⟨.integer i, rfl, .refl _⟩
      | integerDouble same => exact ⟨.double _, rfl, same⟩
    | double d =>
      cases h with
      | double same => exact ⟨.double _, rfl, same⟩
      | doubleInteger same => exact ⟨.integer _, rfl, same⟩
  · rintro ⟨n, rfl, same⟩
    cases m with
    | integer i =>
      cases n with
      | integer j =>
        have tie : compare i.toInt j.toInt = .eq := same.order_eq
        exact Int64.toInt_inj.mp (Std.LawfulEqCmp.eq_of_compare tie) ▸ .integer i
      | double => exact .integerDouble same
    | double d =>
      cases n with
      | integer => exact .doubleInteger same
      | double => exact .double same

theorem order_eq {v w : Value} (h : Agrees legible exact v w) : v.order w = .eq := by
  induction v generalizing w with
  | integer i =>
    obtain ⟨n, rfl, same⟩ := number_iff (m := .integer i).mp h
    exact (order_toValue (.integer i) n).trans same.order_eq
  | double d =>
    obtain ⟨n, rfl, same⟩ := number_iff (m := .double d).mp h
    exact (order_toValue (.double d) n).trans same.order_eq
  | geo point =>
    cases h with
    | geo latitude longitude =>
      exact Ordering.then_eq_eq.mpr ⟨latitude.order_eq, longitude.order_eq⟩
  | vector as =>
    cases h with
    | vector components => exact order_vector.mpr (components.imp fun _ _ h => h.order_eq)
  | array as ih =>
    cases h with
    | array items => exact order_array.mpr (forall₂_imp_mem items fun v hv _ _ => ih v hv)
  | map as ih =>
    obtain ⟨bs, rfl, entries⟩ := map_iff.mp h
    have ties : Entries.Agree (fun v w => v.order w = .eq) as bs :=
      entries.imp_mem fun e he _ => ih e he
    exact order_map.mpr (Entries.Agree.iff_sorted.mp ties).2.2
  | _ =>
    cases h
    exact Std.ReflCmp.compare_self

theorem symm {v w : Value} (h : Agrees legible exact v w) : Agrees legible exact w v := by
  induction v generalizing w with
  | integer i =>
    obtain ⟨n, rfl, same⟩ := number_iff (m := .integer i).mp h
    exact number_iff.mpr ⟨.integer i, rfl, same.symm⟩
  | double d =>
    obtain ⟨n, rfl, same⟩ := number_iff (m := .double d).mp h
    exact number_iff.mpr ⟨.double d, rfl, same.symm⟩
  | geo point =>
    cases h with
    | geo latitude longitude => exact .geo latitude.symm longitude.symm
  | vector as =>
    cases h with
    | vector components =>
      exact .vector (List.Forall₂.flip (components.imp fun _ _ h => Number.Agrees.symm h))
  | array as ih =>
    cases h with
    | array items => exact .array (forall₂_imp_mem items fun v hv _ _ => ih v hv).flip
  | map as ih =>
    obtain ⟨bs, rfl, entries⟩ := map_iff.mp h
    have turned : Entries.Agree (fun v w => Agrees legible exact w v) as bs :=
      entries.imp_mem fun e he _ => ih e he
    exact map_iff.mpr ⟨as, rfl, turned.swap⟩
  | reference key =>
    cases h with
    | reference legible => exact .reference legible
  | _ =>
    cases h
    constructor

theorem trans {v w u : Value} (h : Agrees legible exact v w) (h' : Agrees legible exact w u) :
    Agrees legible exact v u := by
  induction v generalizing w u with
  | integer i =>
    obtain ⟨n, rfl, first⟩ := number_iff (m := .integer i).mp h
    obtain ⟨k, rfl, second⟩ := number_iff.mp h'
    exact number_iff (m := .integer i).mpr ⟨k, rfl, first.trans second⟩
  | double d =>
    obtain ⟨n, rfl, first⟩ := number_iff (m := .double d).mp h
    obtain ⟨k, rfl, second⟩ := number_iff.mp h'
    exact number_iff (m := .double d).mpr ⟨k, rfl, first.trans second⟩
  | geo point =>
    cases h with
    | geo latitude longitude =>
      cases h' with
      | geo latitude' longitude' =>
        exact .geo (Number.Agrees.trans latitude latitude') (Number.Agrees.trans longitude longitude')
  | vector as =>
    cases h with
    | vector first =>
      cases h' with
      | vector second =>
        exact .vector (forall₂_trans_mem first second fun _ _ _ _ => Number.Agrees.trans)
  | array as ih =>
    cases h with
    | array first =>
      cases h' with
      | array second => exact .array (forall₂_trans_mem first second fun v hv _ _ => ih v hv)
  | map as ih =>
    obtain ⟨bs, rfl, first⟩ := map_iff.mp h
    obtain ⟨cs, rfl, second⟩ := map_iff.mp h'
    exact map_iff.mpr ⟨cs, rfl, first.trans_mem second fun e he _ _ => ih e he⟩
  | _ =>
    cases h
    exact h'

theorem refl {v : Value} (distinct : v.distinctKeys) (clear : ∀ key ∈ v.references, legible key) :
    Agrees legible exact v v := by
  induction v with
  | double d => exact .double (.refl _)
  | geo point => exact .geo (.refl _) (.refl _)
  | vector components => exact .vector (List.forall₂_same.mpr fun _ _ => .refl _)
  | reference key => exact .reference (clear key (by simp [references]))
  | array items ih =>
    rw [distinctKeys_array] at distinct
    refine .array (List.forall₂_same.mpr fun v hv => ih v hv (distinct v hv) fun key hk => ?_)
    exact clear key (mem_references_array.mpr ⟨v, hv, hk⟩)
  | map entries ih =>
    rw [distinctKeys_map] at distinct
    refine .map distinct.1 distinct.1 fun key => ?_
    cases found : Entries.find? key entries with
    | none => exact .none
    | some v =>
      have member := Entries.mem_of_find? found
      refine .some (ih _ member (distinct.2 _ member) fun key hk => ?_)
      exact clear key (mem_references_map.mpr ⟨_, member, hk⟩)
  | _ => constructor

theorem relax {legible' : DocumentKey → Prop} {exact' : Bool} {v w : Value} (h : Agrees legible exact v w)
    (admits : ∀ key, legible key → legible' key) (grade : exact' = true → exact = true) :
    Agrees legible' exact' v w := by
  induction v generalizing w with
  | integer i =>
    obtain ⟨n, rfl, same⟩ := number_iff (m := .integer i).mp h
    exact number_iff (m := .integer i).mpr ⟨n, rfl, same.relax grade⟩
  | double d =>
    obtain ⟨n, rfl, same⟩ := number_iff (m := .double d).mp h
    exact number_iff (m := .double d).mpr ⟨n, rfl, same.relax grade⟩
  | geo point =>
    cases h with
    | geo latitude longitude =>
      exact .geo (Number.Agrees.relax latitude grade) (Number.Agrees.relax longitude grade)
  | vector as =>
    cases h with
    | vector components => exact .vector (components.imp fun _ _ h => Number.Agrees.relax h grade)
  | array as ih =>
    cases h with
    | array items => exact .array (forall₂_imp_mem items fun v hv _ _ => ih v hv)
  | map as ih =>
    obtain ⟨bs, rfl, entries⟩ := map_iff.mp h
    exact map_iff.mpr ⟨bs, rfl, entries.imp_mem fun e he _ => ih e he⟩
  | reference key =>
    cases h with
    | reference clear => exact .reference (admits key clear)
  | _ =>
    cases h
    constructor

theorem distinct {v w : Value} (h : Agrees legible exact v w) : v.distinctKeys := by
  induction v generalizing w with
  | array as ih =>
    cases h with
    | array items =>
      rw [distinctKeys_array]
      intro v hv
      obtain ⟨w, _, related⟩ := exists_of_forall₂ items hv
      exact ih v hv related
  | map as ih =>
    obtain ⟨bs, rfl, entries⟩ := map_iff.mp h
    rw [distinctKeys_map]
    refine ⟨entries.left, fun e he => ?_⟩
    obtain ⟨w, _, related⟩ := entries.partner he
    exact ih e he related
  | _ => rfl

theorem clear {v w : Value} (h : Agrees legible exact v w) : ∀ key ∈ v.references, legible key := by
  induction v generalizing w with
  | array as ih =>
    cases h with
    | array items =>
      intro key hk
      obtain ⟨v, hv, hk⟩ := mem_references_array.mp hk
      obtain ⟨w, _, related⟩ := exists_of_forall₂ items hv
      exact ih v hv related key hk
  | map as ih =>
    obtain ⟨bs, rfl, entries⟩ := map_iff.mp h
    intro key hk
    obtain ⟨e, he, hk⟩ := mem_references_map.mp hk
    obtain ⟨w, _, related⟩ := entries.partner he
    exact ih e he related key hk
  | reference key =>
    cases h with
    | reference clear => simpa [references] using clear
  | _ => simp [references]

/-- Values that are the same as written agree at both grades. -/
theorem of_same_distinct {v w : Value} (hv : v.distinctKeys) (hw : w.distinctKeys)
    (clear : ∀ key ∈ v.references, legible key) (spelled : v.same w) : Agrees legible exact v w := by
  induction v generalizing w with
  | array as ih =>
    cases w with
    | array bs =>
      rw [same, itemsSame_iff] at spelled
      rw [distinctKeys_array] at hv hw
      refine .array (forall₂_imp_mem spelled fun v mv w mw spelled => ih v mv (hv v mv) (hw w mw) ?_ spelled)
      exact fun key hk => clear key (mem_references_array.mpr ⟨v, mv, hk⟩)
    | _ => simp [same] at spelled
  | map as ih =>
    cases w with
    | map bs =>
      rw [same, Bool.and_eq_true, beq_iff_eq, entriesSame_iff] at spelled
      rw [distinctKeys_map] at hv hw
      refine map_iff.mpr ⟨bs, rfl, Entries.Agree.iff_partners.mpr ⟨hv.1, hw.1, spelled.1, fun a member => ?_⟩⟩
      obtain ⟨w, found, spelled⟩ := spelled.2 a member
      refine ⟨w, found, ih a member (hv.2 a member) (hw.2 _ (Entries.mem_of_find? found)) ?_ spelled⟩
      exact fun key hk => clear key (mem_references_map.mpr ⟨a, member, hk⟩)
    | _ => simp [same] at spelled
  | null =>
    cases w with
    | null => exact .null
    | _ => simp [same] at spelled
  | _ =>
    cases w <;> simp only [same, Bool.false_eq_true, beq_iff_eq] at spelled
    subst spelled
    exact .refl rfl clear

/-- Sameness as written raises agreement to the upper grade. -/
theorem of_same {v w : Value} (h : Agrees legible exact v w) (spelled : v.same w) :
    Agrees legible true v w :=
  of_same_distinct h.distinct h.symm.distinct h.clear spelled

/-- Values that agree at the upper grade are the same as written. -/
theorem same_of_exact {v w : Value} (h : Agrees legible true v w) : v.same w := by
  induction v generalizing w with
  | array as ih =>
    cases h with
    | array items =>
      rw [same, itemsSame_iff]
      exact forall₂_imp_mem items fun v hv _ _ => ih v hv
  | map as ih =>
    obtain ⟨bs, rfl, entries⟩ := map_iff.mp h
    obtain ⟨_, _, size, partners⟩ := Entries.Agree.iff_partners.mp entries
    rw [same, Bool.and_eq_true, beq_iff_eq, entriesSame_iff]
    refine ⟨size, fun a member => ?_⟩
    obtain ⟨w, found, related⟩ := partners a member
    exact ⟨w, found, ih a member related⟩
  | integer i =>
    obtain ⟨n, rfl, equal⟩ := number_iff (m := .integer i).mp h
    cases (equal : .integer i = n)
    exact beq_self_eq_true i
  | double d =>
    obtain ⟨n, rfl, equal⟩ := number_iff (m := .double d).mp h
    cases (equal : .double d = n)
    exact beq_self_eq_true d
  | geo point =>
    obtain ⟨latitude, longitude⟩ := point
    cases h with
    | geo first second =>
      cases (first : Number.double _ = .double _)
      cases (second : Number.double _ = .double _)
      exact beq_self_eq_true _
  | vector as =>
    cases h with
    | vector components =>
      cases Double.eq_of_agrees components
      exact beq_self_eq_true as
  | _ =>
    cases h
    first | rfl | exact beq_self_eq_true _

end Value.Agrees

theorem unmarked_array {items : List Value} :
    (Value.array items).unmarked ↔ ∀ v ∈ items, v.unmarked := by
  rw [Value.unmarked]
  induction items with
  | nil => simp [itemsUnmarked]
  | cons v vs ih => simp [itemsUnmarked, ih]

theorem unmarked_map {entries : Fields} : (Value.map entries).unmarked ↔
    isMarked entries = false ∧ ∀ e ∈ entries, e.2.unmarked := by
  have values : entriesUnmarked entries ↔ ∀ e ∈ entries, e.2.unmarked := by
    induction entries with
    | nil => simp [entriesUnmarked]
    | cons e es ih =>
      obtain ⟨k, v⟩ := e
      simp [entriesUnmarked, ih]
  simp [Value.unmarked, values]

/-- A map that ties with a vector is marked like the one that stands for it. -/
theorem isMarked_of_order {components : List Double} {entries : Fields}
    (distinct : (Value.map entries).distinctKeys)
    (h : (Value.vector components).order (.map entries) = .eq) : isMarked entries = true := by
  have stands := Value.distinctKeys_vectorEntries components
  rw [Value.distinctKeys_map] at distinct stands
  rw [Value.order, form_vector, ← Value.order, order_map,
    Entries.forall₂_sortByKey_iff (R := fun v w => v.order w = .eq) stands.1 distinct.1] at h
  obtain ⟨v, found, tie⟩ := h.2 _ List.mem_cons_self
  obtain ⟨s, same⟩ := Form.eq_wrap_of_order tie
  cases v with
  | string s =>
    have equal : compare Value.vectorTypeName s = .eq := tie
    simp [isMarked, found, Std.LawfulEqCmp.eq_of_compare equal]
  | _ => contradiction

/-- Ties of the total order agree at the lower grade, maps that look like vectors apart. -/
theorem Value.Agrees.of_order {legible : DocumentKey → Prop} {v w : Value} (tie : v.order w = .eq)
    (hv : v.distinctKeys) (hw : w.distinctKeys) (plain : v.unmarked) (plain' : w.unmarked)
    (clear : ∀ key ∈ v.references, legible key) : Value.Agrees legible false v w := by
  have kind := Form.eq_wrap_of_order tie
  induction v generalizing w with
  | null =>
    obtain ⟨_, same⟩ := kind
    cases w with
    | null => exact .null
    | _ => contradiction
  | boolean b =>
    obtain ⟨_, same⟩ := kind
    cases w with
    | boolean c =>
      have equal : compare b c = .eq := tie
      exact Std.LawfulEqCmp.eq_of_compare equal ▸ .boolean b
    | _ => contradiction
  | integer i =>
    obtain ⟨_, same⟩ := kind
    cases w with
    | integer j => exact number_iff (m := .integer i).mpr ⟨.integer j, rfl, tie⟩
    | double d => exact .integerDouble tie
    | _ => contradiction
  | double d =>
    obtain ⟨_, same⟩ := kind
    cases w with
    | integer i => exact .doubleInteger tie
    | double e => exact .double tie
    | _ => contradiction
  | timestamp t =>
    obtain ⟨_, same⟩ := kind
    cases w with
    | timestamp u =>
      have equal : t.order u = .eq := tie
      exact Std.LawfulEqCmp.eq_of_compare equal ▸ .timestamp t
    | _ => contradiction
  | string s =>
    obtain ⟨_, same⟩ := kind
    cases w with
    | string t =>
      have equal : compare s t = .eq := tie
      exact Std.LawfulEqCmp.eq_of_compare equal ▸ .string s
    | _ => contradiction
  | bytes bs =>
    obtain ⟨_, same⟩ := kind
    cases w with
    | bytes cs =>
      have equal : compareBytes bs cs = .eq := tie
      exact Std.LawfulEqCmp.eq_of_compare equal ▸ .bytes bs
    | _ => contradiction
  | reference j =>
    obtain ⟨_, same⟩ := kind
    cases w with
    | reference k =>
      have equal : j.order k = .eq := tie
      exact Std.LawfulEqCmp.eq_of_compare equal ▸ .reference (clear j (by simp [references]))
    | _ => contradiction
  | geo a =>
    obtain ⟨_, same⟩ := kind
    cases w with
    | geo b =>
      obtain ⟨latitude, longitude⟩ := Ordering.then_eq_eq.mp tie
      exact .geo latitude longitude
    | _ => contradiction
  | array as ih =>
    obtain ⟨_, same⟩ := kind
    cases w with
    | array bs =>
      rw [distinctKeys_array] at hv hw
      rw [unmarked_array] at plain plain'
      refine .array (forall₂_imp_mem (order_array.mp tie) fun v mv w mw tie => ?_)
      refine ih v mv tie (hv v mv) (hw w mw) (plain v mv) (plain' w mw) ?_ (Form.eq_wrap_of_order tie)
      exact fun key hk => clear key (mem_references_array.mpr ⟨v, mv, hk⟩)
    | _ => contradiction
  | map as ih =>
    obtain ⟨_, same⟩ := kind
    cases w with
    | map bs =>
      rw [distinctKeys_map] at hv hw
      rw [unmarked_map] at plain plain'
      have ties : Entries.Agree (fun v w => v.order w = .eq) as bs :=
        Entries.Agree.iff_sorted.mpr ⟨hv.1, hw.1, order_map.mp tie⟩
      refine map_iff.mpr ⟨bs, rfl, Entries.Agree.iff_partners.mpr ⟨hv.1, hw.1, ?_⟩⟩
      obtain ⟨_, _, size, partners⟩ := Entries.Agree.iff_partners.mp ties
      refine ⟨size, fun e he => ?_⟩
      obtain ⟨w, found, tie⟩ := partners e he
      have member := Entries.mem_of_find? found
      refine ⟨w, found, ih e he tie (hv.2 e he) (hw.2 _ member) (plain.2 e he) (plain'.2 _ member) ?_
        (Form.eq_wrap_of_order tie)⟩
      exact fun key hk => clear key (mem_references_map.mpr ⟨e, he, hk⟩)
    | vector ds =>
      rw [unmarked_map, isMarked_of_order hv (Std.OrientedCmp.eq_symm tie)] at plain
      cases plain.1
    | _ => contradiction
  | vector ds =>
    obtain ⟨_, same⟩ := kind
    cases w with
    | vector es => exact .vector (order_vector.mp tie)
    | map bs =>
      rw [unmarked_map, isMarked_of_order hw tie] at plain'
      cases plain'.1
    | _ => contradiction

namespace Value.Agrees

variable {legible : DocumentKey → Prop} {exact : Bool} {v v' w w' : Value}

theorem canonical_eq (h : Agrees legible exact v v') : v.canonical = v'.canonical :=
  canonical_congr h.order_eq

theorem order_congr (hv : Agrees legible exact v v') (hw : Agrees legible exact w w') :
    v.order w = v'.order w' := by
  rw [Std.TransCmp.congr_left hv.order_eq, Std.TransCmp.congr_right hw.order_eq]

theorem compare?_congr (hv : Agrees legible exact v v') (hw : Agrees legible exact w w') :
    v.compare? w = v'.compare? w' := by
  have left : v.compare? w = v'.compare? w :=
    congrFun (Form.compare?_of_tie v.form v'.form hv.order_eq) w.form
  have right : w.compare? v' = w'.compare? v' :=
    congrFun (Form.compare?_of_tie w.form w'.form hw.order_eq) v'.form
  have turn (a b : Value) : b.compare? a = (a.compare? b).map Ordering.swap :=
    Form.compare?_mirrors a.form b.form
  rw [left, turn w v', right, ← turn]

theorem equals_congr (hv : Agrees legible exact v v') (hw : Agrees legible exact w w') :
    v.equals w = v'.equals w' := by
  rw [Bool.eq_iff_iff, ties_equal v w hv.distinct hw.distinct,
    ties_equal v' w' hv.symm.distinct hw.symm.distinct, hv.compare?_congr hw]

theorem isNull_eq (h : Agrees legible exact v v') : v.isNull = v'.isNull := by
  cases h <;> rfl

theorem isNumber_eq (h : Agrees legible exact v v') : v.isNumber = v'.isNumber := by
  cases h <;> rfl

theorem isNaN_toValue (n : Number) : n.toValue.isNaN = n.denoted?.isNone := by
  cases n with
  | integer i => rfl
  | double d => cases hd : d.isNaN <;> simp [Number.toValue, isNaN, Number.denoted?, hd]

theorem isNaN_eq (h : Agrees legible exact v v') : v.isNaN = v'.isNaN := by
  have numbers {m : Number} (h : Agrees legible exact m.toValue v') : m.toValue.isNaN = v'.isNaN := by
    obtain ⟨n, rfl, same⟩ := number_iff.mp h
    have tie := same.order_eq
    rw [Number.order_eq, Std.LawfulEqCmp.compare_eq_iff_eq] at tie
    rw [isNaN_toValue, isNaN_toValue, tie]
  cases v with
  | integer i => exact numbers (m := .integer i) h
  | double d => exact numbers (m := .double d) h
  | _ =>
    cases h
    rfl

end Value.Agrees
end DocQuery
