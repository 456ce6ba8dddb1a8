import DocQuery.Proofs.Pipeline.Matching

/-! What filters, sorts, projections and searches make of rows, as functions of the outcomes of their
expressions, and that steps which match make rows that agree of rows that agree. -/
namespace DocQuery

abbrev RowsAgree (legible : DocumentKey → Prop) (exact : Bool) : List Row → List Row → Prop :=
  List.Forall₂ (Row.Agrees legible exact)

theorem each_value (f : α → Observed β) (items : List α) :
    (Observed.each f items).value = items.map fun x => (f x).value := by
  simp [Observed.each]

theorem observe_value (rules : RegexRules) (row : Row) (e : Expr) :
    (observe rules row e).value = evaluate rules row e := rfl

theorem filterRows_value (rules : RegexRules) (condition : Condition) (rows : List Row) :
    (filterRows rules condition rows).value =
      rows.filter fun row => (evaluate rules row condition.toExpr).isTrue := by
  simp only [filterRows, bind, pure, each_value, observe_value, ← List.map_prod_left_eq_zip, List.filter_map,
    List.map_map]
  exact List.map_id _

theorem readWrites_value (rules : RegexRules) (assignments : List Assignment) (row : Row) :
    (readWrites rules assignments row).value = assignments.filterMap fun a =>
      (evaluate rules row a.expr).value?.map (a.path, ·) := by
  simp only [readWrites, bind, pure, each_value, observe_value, ← List.map_prod_left_eq_zip, List.filterMap_map]
  rfl

/-- A row with what it has for the keys of a sort. -/
def keyedRow (rules : RegexRules) (keys : List SortKey) (row : Row) : KeyedRow :=
  ⟨keys.map fun k => (evaluate rules row k.expr).value?, row⟩

theorem sortRows_value (rules : RegexRules) (keys : List SortKey) (rows : List Row) :
    (sortRows rules keys rows).value =
      (sortKeyed (keys.map (·.direction)) (rows.map (keyedRow rules keys))).map (·.row) := by
  have keyed (row : Row) : (readSortKeys rules keys row).value = keyedRow rules keys row := by
    simp only [readSortKeys, bind, pure, each_value, observe_value, List.map_map]
    rfl
  simp only [sortRows, bind, pure, each_value, keyed]

/-- A row with its distance to the target of a search, where it has one. -/
def rankedRow? (rules : RegexRules) (query : NearestQuery) (row : Row) : Option RankedRow :=
  (query.distance? (evaluate rules row query.field)).map fun d => ⟨d, row⟩

theorem nearestRows_value (rules : RegexRules) (query : NearestQuery) (rows : List Row) :
    (nearestRows rules query rows).value =
      (query.cut (rankRows query.measure (rows.filterMap (rankedRow? rules query)))).map query.mark := by
  simp only [nearestRows, bind, pure, each_value, observe_value, ← List.map_prod_left_eq_zip, List.filterMap_map]
  rfl

section Agreement

variable {legible : DocumentKey → Prop} {before after exact : Bool} {rows rows' : List Row} {a b : Row}

theorem Row.Agrees.relax (h : a.Agrees legible before b) (grade : before || !after) :
    a.Agrees legible after b where
  key := h.key
  clear := h.clear
  updateTime := h.updateTime
  createTime := h.createTime
  fields := h.fields.imp_mem fun _ _ _ hv => hv.relax (fun _ => id) (by rintro rfl; simpa using grade)

theorem RowsAgree.relax (h : RowsAgree legible before rows rows') (grade : before || !after) :
    RowsAgree legible after rows rows' :=
  h.imp fun _ _ row => row.relax grade

theorem filterRows_agree (rules : RegexRules) {c d : Condition} (h : RowsAgree legible before rows rows')
    (matched : c.toExpr.Matches legible d.toExpr) (settled : c.toExpr.settled before false d.toExpr) :
    RowsAgree legible before (filterRows rules c rows).value (filterRows rules d rows').value := by
  rw [filterRows_value, filterRows_value]
  refine List.rel_filter (fun a b row => ?_) h
  have outcome := evaluate_agrees rules row c.toExpr d.toExpr false matched settled
  exact Bool.eq_iff_iff.mp outcome.isTrue_eq

theorem compareKey?_congr (d : Direction) {k k' l l' : Option Value}
    (h : Option.Rel (Value.Agrees legible exact) k k') (h' : Option.Rel (Value.Agrees legible exact) l l') :
    compareKey? d k l = compareKey? d k' l' := by
  cases h with
  | none => cases h' <;> rfl
  | some hv =>
    cases h' with
    | none => rfl
    | some hw =>
      cases d with
      | ascending => exact hv.compare?_congr hw
      | descending => exact hw.compare?_congr hv

theorem compareKeys_congr (ds : List Direction) {keys keys' other other' : List (Option Value)}
    (h : List.Forall₂ (Option.Rel (Value.Agrees legible exact)) keys keys')
    (h' : List.Forall₂ (Option.Rel (Value.Agrees legible exact)) other other') :
    compareKeys ds keys other = compareKeys ds keys' other' := by
  induction ds generalizing keys keys' other other' with
  | nil => rfl
  | cons d ds ih =>
    cases h with
    | nil => rfl
    | cons first rest =>
      cases h' with
      | nil => rfl
      | cons first' rest' =>
        rw [compareKeys, compareKeys, compareKey?_congr d first first', ih rest rest']

/-- Rows that agree with keys that agree. -/
def KeyedRowsAgree (legible : DocumentKey → Prop) (exact : Bool) (k l : KeyedRow) : Prop :=
  List.Forall₂ (Option.Rel (Value.Agrees legible false)) k.keys l.keys ∧ k.row.Agrees legible exact l.row

theorem KeyedRow.compare_congr (ds : List Direction) {k l k' l' : KeyedRow}
    (h : KeyedRowsAgree legible exact k l) (h' : KeyedRowsAgree legible exact k' l') :
    KeyedRow.compare ds k k' = KeyedRow.compare ds l l' := by
  rw [compare, compare, compareKeys_congr ds h.1 h'.1, h.2.key, h'.2.key]

theorem sortRows_agree (rules : RegexRules) {ks ls : List SortKey} (h : RowsAgree legible before rows rows')
    (matched : List.Forall₂ (SortKey.Matches legible) ks ls)
    (settled : (ks.zip ls).all fun (k, l) => k.expr.settled before false l.expr) :
    RowsAgree legible before (sortRows rules ks rows).value (sortRows rules ls rows').value := by
  have directions : ks.map (·.direction) = ls.map (·.direction) :=
    map_eq_of_forall₂ matched fun _ _ _ key => key.2
  have keyed {a b : Row} (row : a.Agrees legible before b) :
      KeyedRowsAgree legible before (keyedRow rules ks a) (keyedRow rules ls b) := by
    refine ⟨?_, row⟩
    refine forall₂_map_map.mpr ((forall₂_and_zip matched settled).imp fun k l key => ?_)
    exact (evaluate_agrees rules row k.expr l.expr false key.1.1 key.2).value?_rel
  have items : List.Forall₂ (KeyedRowsAgree legible before) (rows.map (keyedRow rules ks))
      (rows'.map (keyedRow rules ls)) := forall₂_map_map.mpr (h.imp fun _ _ => keyed)
  have sorted : List.Forall₂ (KeyedRowsAgree legible before)
      (sortKeyed (ls.map (·.direction)) (rows.map (keyedRow rules ks)))
      (sortKeyed (ls.map (·.direction)) (rows'.map (keyedRow rules ls))) :=
    mergeHalves_rel items fun k l agree k' l' agree' => by
      rw [KeyedRow.compare_congr (ls.map (·.direction)) agree agree']
  rw [sortRows_value, sortRows_value, directions]
  exact forall₂_map_map.mpr (sorted.imp fun _ _ agree => agree.2)

theorem NearestQuery.distance?_congr {q r : NearestQuery} (target : q.target = r.target)
    (measure : q.measure = r.measure) {o o' : Outcome} (h : o.Agrees legible true o') :
    q.distance? o = r.distance? o' := by
  cases h with
  | value hv =>
    cases hv with
    | vector components =>
      cases Double.eq_of_agrees components
      rw [distance?, distance?, target, measure]
    | _ => rfl
  | _ => rfl

/-- Rows that agree, at one distance. -/
def RankedRowsAgree (legible : DocumentKey → Prop) (exact : Bool) (r s : RankedRow) : Prop :=
  r.distance = s.distance ∧ r.row.Agrees legible exact s.row

theorem Row.Agrees.withFields {as bs : Fields} (h : a.Agrees legible before b)
    (fields : FieldsAgree legible exact as bs) : (a.withFields as).Agrees legible exact (b.withFields bs) where
  key := h.key
  clear := h.clear
  updateTime := h.updateTime
  createTime := h.createTime
  fields := fields

theorem Row.Agrees.ofFields {as bs : Fields} (fields : FieldsAgree legible exact as bs) :
    (Row.ofFields as).Agrees legible exact (.ofFields bs) :=
  ⟨rfl, fun _ h => (nomatch h), rfl, rfl, fields⟩

theorem nearestRows_agree (rules : RegexRules) {q r : NearestQuery} (h : RowsAgree legible before rows rows')
    (matched : q.Matches legible r) (settled : q.field.settled before true r.field)
    (target : q.target = r.target) :
    RowsAgree legible before (nearestRows rules q rows).value (nearestRows rules r rows').value := by
  have ranked : List.Forall₂ (RankedRowsAgree legible before) (rows.filterMap (rankedRow? rules q))
      (rows'.filterMap (rankedRow? rules r)) := by
    refine List.rel_filterMap (fun a b row => ?_) h
    have outcome := evaluate_agrees rules row q.field r.field true matched.field settled
    rw [rankedRow?, rankedRow?, NearestQuery.distance?_congr target matched.measure outcome]
    cases r.distance? (evaluate rules b r.field) with
    | none => exact .none
    | some d => exact .some ⟨rfl, row⟩
  have sorted : List.Forall₂ (RankedRowsAgree legible before)
      (rankRows q.measure (rows.filterMap (rankedRow? rules q)))
      (rankRows q.measure (rows'.filterMap (rankedRow? rules r))) :=
    mergeSort_rel ranked fun x y agree x' y' agree' => by
      simp only [RankedRow.compare, agree.1, agree'.1, agree.2.key, agree'.2.key]
  have cut : List.Forall₂ (RankedRowsAgree legible before)
      (q.cut (rankRows q.measure (rows.filterMap (rankedRow? rules q))))
      (r.cut (rankRows q.measure (rows'.filterMap (rankedRow? rules r)))) := by
    unfold NearestQuery.cut
    rw [← matched.limit]
    cases q.limit with
    | none => exact sorted
    | some n => exact List.forall₂_take n sorted
  rw [nearestRows_value, nearestRows_value, ← matched.measure]
  refine forall₂_map_map.mpr (cut.imp fun x y agree => ?_)
  unfold NearestQuery.mark
  rw [← matched.distanceField]
  cases q.distanceField with
  | none => exact agree.2
  | some path => exact agree.2.withFields (setField_agree agree.2.fields (agree.1 ▸ .double (.refl _)) _)

theorem writeFields_paired {α : Type} {path : α → FieldPath} {R : α → α → Prop} {as bs : List α}
    {f g : α → Option Value} {fields fields' : Fields} (h : FieldsAgree legible exact fields fields')
    (paired : Paired path R as bs)
    (values : ∀ a b, R a b → path a = path b ∧ Option.Rel (Value.Agrees legible exact) (f a) (g b)) :
    FieldsAgree legible exact (writeFields fields (as.filterMap fun a => (f a).map (path a, ·)))
      (writeFields fields' (bs.filterMap fun b => (g b).map (path b, ·))) := by
  obtain ⟨cs, related, order⟩ := paired
  have writes : WritesAgree legible exact (as.filterMap fun a => (f a).map (path a, ·))
      (cs.filterMap fun b => (g b).map (path b, ·)) := by
    refine List.rel_filterMap (fun a b hab => ?_) related
    obtain ⟨same, value⟩ := values a b hab
    generalize f a = x, g b = y at value
    cases value with
    | none => exact .none
    | some agree => exact .some ⟨same, agree⟩
  have listed := writeFields_agree h writes
  rcases order with rfl | ⟨apart, perm⟩
  · exact listed
  · have paths : as.map path = cs.map path := map_eq_of_forall₂ related fun a _ b hab => (values a b hab).1
    have apart' : cs.Pairwise fun a b => (path a).Apart (path b) := by
      rwa [← List.pairwise_map, ← paths, List.pairwise_map]
    refine listed.trans (writeFields_perm h.right (perm.filterMap _) writes.right ?_)
    refine apart'.filterMap _ fun a b hab x hx y hy => ?_
    obtain ⟨v, _, rfl⟩ := Option.map_eq_some_iff.mp hx
    obtain ⟨w, _, rfl⟩ := Option.map_eq_some_iff.mp hy
    exact hab

/-- What the assignments of two steps have in common once their order is out of the way. -/
def AssignmentsPaired (legible : DocumentKey → Prop) (before after : Bool) : List Assignment → List Assignment → Prop :=
  Paired (·.path) fun a b => a.Matches legible b ∧ a.settled before after b

theorem assignments_paired {as bs : List Assignment} (matched : AssignmentsMatch legible as bs)
    (settled : assignmentsSettled before after as bs)
    (order : as.map (·.text) = bs.map (·.text) ∨ as.Pairwise fun a b => a.path.Apart b.path) :
    AssignmentsPaired legible before after as bs :=
  paired_of_inTextOrder order (forall₂_and_zip matched settled)

theorem readWrites_agree (rules : RegexRules) {as bs : List Assignment} {fields fields' : Fields}
    (h : a.Agrees legible before b) (paired : AssignmentsPaired legible before after as bs)
    (start : FieldsAgree legible after fields fields') :
    FieldsAgree legible after (writeFields fields (readWrites rules as a).value)
      (writeFields fields' (readWrites rules bs b).value) := by
  rw [readWrites_value, readWrites_value]
  refine writeFields_paired start paired fun x y both => ⟨both.1.1, ?_⟩
  exact (evaluate_agrees rules h x.expr y.expr after both.1.2 both.2).value?_rel

theorem addFields_agree (rules : RegexRules) {as bs : List Assignment} (h : RowsAgree legible before rows rows')
    (paired : AssignmentsPaired legible before after as bs) (grade : before || !after) :
    RowsAgree legible after (Observed.each (addFields rules as) rows).value
      (Observed.each (addFields rules bs) rows').value := by
  rw [each_value, each_value]
  refine forall₂_map_map.mpr (h.imp fun a b row => ?_)
  exact row.withFields (readWrites_agree rules row paired (row.relax grade).fields)

theorem selectFields_agree (rules : RegexRules) {as bs : List Assignment} (h : RowsAgree legible before rows rows')
    (paired : AssignmentsPaired legible before after as bs) :
    RowsAgree legible after (Observed.each (selectFields rules as) rows).value
      (Observed.each (selectFields rules bs) rows').value := by
  rw [each_value, each_value]
  refine forall₂_map_map.mpr (h.imp fun a b row => ?_)
  exact row.withFields (readWrites_agree rules row paired .nil)

end Agreement
end DocQuery
