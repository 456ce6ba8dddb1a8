import DocQuery.Proofs.Number.Signs
import DocQuery.Proofs.Pipeline.Limits
import DocQuery.Proofs.Pipeline.Sorting

/-! A search ranks the rows that have a distance from its target, nearest first and then by document key, and keeps as
many of them as its limit allows. The one exception are dot products that are zeros of opposite signs: they are told
apart by their signs before their keys. -/
namespace DocQuery

namespace DistanceMeasure

variable {m : DistanceMeasure} {d e : Double}

/-- The function of expressions that computes the distances of a search. -/
def function : DistanceMeasure → VectorFunction
  | cosine => .cosine
  | euclidean => .euclidean
  | dotProduct => .dotProduct

/-- One distance is numerically before the other. -/
def Nearer (m : DistanceMeasure) (d e : Double) : Prop :=
  d.compare? e = some (if m.descending then .gt else .lt)

/-- The order of distances that a search goes by. -/
def order (m : DistanceMeasure) (d e : Double) : Ordering :=
  if m.descending then e.signedOrder d else d.signedOrder e

instance : Std.TransCmp m.order := by
  unfold order
  cases m.descending <;> simp only [if_true, if_false, Bool.false_eq_true] <;> infer_instance

theorem compare?_of_order (hd : d.isNaN = false) (he : e.isNaN = false) (unlike : ¬ d.OppositeZeros e) :
    d.compare? e = some (if m.descending then (m.order d e).swap else m.order d e) := by
  rw [Double.compare?_eq_signedOrder hd he unlike, order]
  cases m.descending with
  | false => rfl
  | true => exact congrArg some Std.OrientedCmp.eq_swap

theorem nearer_of_order (hd : d.isNaN = false) (he : e.isNaN = false) (unlike : ¬ d.OppositeZeros e)
    (before : m.order d e = .lt) : m.Nearer d e := by
  rw [Nearer, compare?_of_order (m := m) hd he unlike, before]
  cases m.descending <;> rfl

theorem compare?_eq_iff_order (hd : d.isNaN = false) (he : e.isNaN = false) (unlike : ¬ d.OppositeZeros e) :
    d.compare? e = some .eq ↔ m.order d e = .eq := by
  rw [compare?_of_order (m := m) hd he unlike]
  cases m.descending <;> simp

/-- The functions of expressions give the distances that a search goes by. -/
theorem function_apply {as target : List Double} (size : as.length = target.length)
    (measured : m.measure? as target = some d) (number : d.isNaN = false) :
    m.function.apply [.value (.vector as), .value (.vector target)] = .value (.double d) := by
  have same : m.function.measure? as target = some d := by
    cases m <;> exact measured
  have distance : m.function.distance (.value (.vector as)) (.value (.vector target)) = .ok (.double d) := by
    have read (components : List Double) :
        (Outcome.value (.vector components)).vector (.vector m.function) = .ok components := rfl
    simp [VectorFunction.distance, read, bind, Except.bind, size, same, number, pure, Except.pure]
  cases m <;> exact congrArg Outcome.ofExcept distance

end DistanceMeasure

namespace RankedRow

variable {m : DistanceMeasure} {a b : RankedRow}

/-- A row is nearer than another one, or as near with a document key before that of the other. -/
def Precedes (m : DistanceMeasure) (a b : RankedRow) : Prop :=
  m.Nearer a.distance b.distance ∨ a.distance.compare? b.distance = some .eq ∧ a.row.IdentityPrecedes b.row

/-- Neither the distances nor the document keys tell the rows apart. -/
def Ties (a b : RankedRow) : Prop := a.distance.compare? b.distance = some .eq ∧ a.row.key = b.row.key

theorem compare_eq (m : DistanceMeasure) (a b : RankedRow) : RankedRow.compare m a b =
    (m.order a.distance b.distance).then (compareIdentity a.row.key b.row.key) := rfl

instance : Std.TransCmp (RankedRow.compare m) :=
  have _ := transCmp_on m.order RankedRow.distance
  have _ := transCmp_on compareIdentity fun r : RankedRow => r.row.key
  inferInstanceAs (Std.TransCmp (compareLex (fun a b : RankedRow => m.order a.distance b.distance)
    fun a b => compareIdentity a.row.key b.row.key))

theorem precedes_or_ties (ha : a.distance.isNaN = false) (hb : b.distance.isNaN = false)
    (unlike : ¬ a.distance.OppositeZeros b.distance) (le : (RankedRow.compare m a b).isLE) :
    a.Precedes m b ∨ a.Ties b := by
  rw [compare_eq, Ordering.isLE_then_iff_or] at le
  rcases le with nearer | ⟨level, keys⟩
  · exact .inl (.inl (DistanceMeasure.nearer_of_order ha hb unlike nearer))
  · have level := (DistanceMeasure.compare?_eq_iff_order ha hb unlike).mpr level
    cases o : compareIdentity a.row.key b.row.key with
    | lt => exact .inl (.inr ⟨level, Row.identityPrecedes_iff.mpr o⟩)
    | eq => exact .inr ⟨level, Std.LawfulEqCmp.eq_of_compare o⟩
    | gt =>
      rw [o] at keys
      contradiction

theorem compare_of_ties (ha : a.distance.isNaN = false) (hb : b.distance.isNaN = false)
    (unlike : ¬ a.distance.OppositeZeros b.distance) (h : a.Ties b) : RankedRow.compare m a b = .eq := by
  rw [compare_eq, (DistanceMeasure.compare?_eq_iff_order ha hb unlike).mp h.1, h.2]
  exact @Std.ReflCmp.compare_self _ compareIdentity _ _

end RankedRow

section Ranking

variable {m : DistanceMeasure} {rows group : List RankedRow}

theorem rankRows_eq : rankRows m rows = rows.mergeSort fun a b => (RankedRow.compare m a b).isLE := by
  simp only [rankRows, Ordering.isLE_eq_not_beq_gt, bne]

theorem rankRows_perm : (rankRows m rows).Perm rows := List.mergeSort_perm _ _

theorem isLE_compare_total (a b : RankedRow) :
    (RankedRow.compare m a b).isLE || (RankedRow.compare m b a).isLE := by
  rw [@Std.OrientedCmp.eq_swap _ (RankedRow.compare m) _ b a]
  cases RankedRow.compare m a b <;> rfl

theorem rankRows_pairwise : (rankRows m rows).Pairwise fun a b => (RankedRow.compare m a b).isLE := by
  rw [rankRows_eq]
  exact List.pairwise_mergeSort (fun _ _ _ => Std.TransCmp.isLE_trans) isLE_compare_total rows

/-- Rows that nothing tells apart stay as they came. -/
theorem rankRows_stable (listed : group.Sublist rows)
    (tied : group.Pairwise fun a b => RankedRow.compare m a b = .eq) : group.Sublist (rankRows m rows) := by
  rw [rankRows_eq]
  exact List.sublist_mergeSort (fun _ _ _ => Std.TransCmp.isLE_trans) isLE_compare_total
    (tied.imp Ordering.isLE_of_eq_eq) listed

end Ranking

section Search

variable {rules : RegexRules} {query : NearestQuery} {rows : List Row} {r a b : RankedRow}

theorem NearestQuery.cut_eq_take (query : NearestQuery) (ranked : List RankedRow) :
    query.cut ranked = ranked.take ((query.limit.map (min · ranked.length)).getD ranked.length) := by
  rw [cut]
  cases query.limit with
  | none => exact List.take_length.symm
  | some n => exact List.take_eq_take_min

/-- A row with its distance from the target of a search, which is a number. -/
def NearestQuery.Measured (rules : RegexRules) (query : NearestQuery) (r : RankedRow) : Prop :=
  ∃ components, evaluate rules r.row query.field = .value (.vector components) ∧
    components.length = query.target.length ∧
    query.measure.measure? components query.target = some r.distance ∧ r.distance.isNaN = false

theorem measured_of_mem (h : r ∈ rows.filterMap (rankedRow? rules query)) : query.Measured rules r := by
  obtain ⟨row, _, ranked⟩ := List.mem_filterMap.mp h
  obtain ⟨d, found, rfl⟩ := Option.map_eq_some_iff.mp ranked
  exact NearestQuery.distance?_eq_some.mp found

theorem NearestQuery.Measured.number (h : query.Measured rules r) : r.distance.isNaN = false := by
  obtain ⟨_, _, _, _, number⟩ := h
  exact number

/-- The distance of a row that is ranked is that of the function of expressions. -/
theorem NearestQuery.Measured.apply (h : query.Measured rules r) :
    query.measure.function.apply [evaluate rules r.row query.field, .value (.vector query.target)] =
      .value (.double r.distance) := by
  obtain ⟨components, outcome, size, measured, number⟩ := h
  rw [outcome]
  exact DistanceMeasure.function_apply size measured number

theorem NearestQuery.Measured.dotProduct (ha : query.Measured rules a) (hb : query.Measured rules b)
    (opposite : a.distance.OppositeZeros b.distance) : query.measure = .dotProduct := by
  obtain ⟨_, _, sizeA, measuredA, _⟩ := ha
  obtain ⟨_, _, sizeB, measuredB, _⟩ := hb
  exact query.measure.eq_dotProduct sizeA sizeB measuredA measuredB opposite

theorem map_row_filterMap_rankedRow? :
    (rows.filterMap (rankedRow? rules query)).map (·.row) = rows.filter fun row => query.Ranks rules row := by
  rw [List.map_filterMap, ← List.filterMap_eq_filter]
  refine List.filterMap_congr fun row _ => ?_
  have ranks : (rankedRow? rules query row).isSome ↔ query.Ranks rules row := rankedRow?_isSome_iff row
  cases found : query.distance? (evaluate rules row query.field) <;>
    simp_all [rankedRow?, Option.guard]

/-- What the comparison of ranked rows says of their distances and keys. -/
theorem in_order_of_isLE (ha : query.Measured rules a) (hb : query.Measured rules b)
    (le : (RankedRow.compare query.measure a b).isLE) :
    if a.distance.OppositeZeros b.distance then query.measure = .dotProduct ∧ b.distance = .negativeZero
    else a.Precedes query.measure b ∨ a.Ties b := by
  split
  next opposite =>
    have dot := ha.dotProduct hb opposite
    rw [RankedRow.compare_eq] at le
    have first := Ordering.isLE_left_of_isLE_then le
    rw [dot] at first
    exact ⟨dot, Double.eq_negativeZero_of_isLE opposite.symm first⟩
  next unlike => exact RankedRow.precedes_or_ties ha.number hb.number unlike le

/-- A search is a stable ranking: the rows whose vectors have a distance from the target come nearest first,
numerically, and then by document key, those that are told apart by neither as they were given. The exception are dot
products that are zero and negative zero: zero comes first, whatever the keys are. -/
theorem nearestRows_ranked (rules : RegexRules) (query : NearestQuery) (rows : List Row) :
    ∃ survivors ranked : List RankedRow,
      survivors.map (·.row) = rows.filter (fun row => query.Ranks rules row) ∧
      (∀ r ∈ survivors, query.measure.function.apply
        [evaluate rules r.row query.field, .value (.vector query.target)] = .value (.double r.distance)) ∧
      ranked.Perm survivors ∧
      (ranked.Pairwise fun a b =>
        if a.distance.OppositeZeros b.distance then query.measure = .dotProduct ∧ b.distance = .negativeZero
        else a.Precedes query.measure b ∨ a.Ties b) ∧
      (∀ group : List RankedRow, group.Sublist survivors →
        (group.Pairwise fun a b => ¬ a.distance.OppositeZeros b.distance ∧ a.Ties b) → group.Sublist ranked) ∧
      (nearestRows rules query rows).value =
        (ranked.take ((query.limit.map (min · survivors.length)).getD survivors.length)).map query.mark := by
  have measured (r : RankedRow) (h : r ∈ rows.filterMap (rankedRow? rules query)) : query.Measured rules r :=
    measured_of_mem h
  refine ⟨_, rankRows query.measure (rows.filterMap (rankedRow? rules query)), map_row_filterMap_rankedRow?,
    fun r hr => (measured r hr).apply, rankRows_perm, ?_, fun group listed tied => ?_, ?_⟩
  · exact rankRows_pairwise.imp_of_mem fun ha hb le => in_order_of_isLE
      (measured _ (rankRows_perm.mem_iff.mp ha)) (measured _ (rankRows_perm.mem_iff.mp hb)) le
  · refine rankRows_stable listed (tied.imp_of_mem fun ha hb h => ?_)
    exact RankedRow.compare_of_ties (measured _ (listed.mem ha)).number (measured _ (listed.mem hb)).number h.1 h.2
  · rw [nearestRows_value, NearestQuery.cut_eq_take, rankRows_perm.length_eq]

/-- Dot products that are equal, and yet the row with the first key comes second. -/
theorem nearestRows_of_opposite_zeros :
    let row (key : DocumentKey) (d : Double) : Row := ⟨some key, none, none, [("embedding", .vector [d])]⟩
    let a := row ⟨⟨["shop", "a"]⟩, by decide⟩ .negativeZero
    let b := row ⟨⟨["shop", "b"]⟩, by decide⟩ .zero
    let query : NearestQuery := ⟨.field ⟨["embedding"]⟩, [.one], .dotProduct, none, none⟩
    query.Ranks 100 a ∧ query.Ranks 100 b ∧
      (Double.dotProduct [.negativeZero] [.one]).compare? (Double.dotProduct [.zero] [.one]) = some .eq ∧
      a.IdentityPrecedes b ∧ (nearestRows 100 query [a, b]).value = [b, a] := by
  intro row a b query
  have first : rankedRow? 100 query a = some ⟨.negativeZero, a⟩ :=
    Option.map_eq_some_iff.mpr ⟨.negativeZero, by decide +kernel, rfl⟩
  have second : rankedRow? 100 query b = some ⟨.zero, b⟩ :=
    Option.map_eq_some_iff.mpr ⟨.zero, by decide +kernel, rfl⟩
  have turned : RankedRow.compare .dotProduct ⟨.negativeZero, a⟩ ⟨.zero, b⟩ = .gt := by decide +kernel
  refine ⟨(rankedRow?_isSome_iff a).mp (by rw [first]; rfl), (rankedRow?_isSome_iff b).mp (by rw [second]; rfl),
    by decide +kernel, Row.identityPrecedes_iff.mpr (by decide +kernel), ?_⟩
  have ranked : rankRows .dotProduct [⟨.negativeZero, a⟩, ⟨.zero, b⟩] = [⟨.zero, b⟩, ⟨.negativeZero, a⟩] := by
    simp [rankRows, List.mergeSort, turned]
  rw [nearestRows_value, List.filterMap_cons_some first, List.filterMap_cons_some second, List.filterMap_nil, ranked]
  rfl

end Search

end DocQuery
