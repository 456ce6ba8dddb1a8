import DocQuery.Proofs.Pipeline.Groups

/-! Totals of groups. What a total has taken in agrees between runs, as exactly as its kind of total needs to
tell its results. -/
namespace DocQuery

section Tallies

variable {legible : DocumentKey → Prop} {exact : Bool} {kind : Aggregation} {t t' : Tally} {v w : Value}

/-- Totals of one kind: extremes that agree, or one total. -/
inductive Tally.Agrees (legible : DocumentKey → Prop) (exact : Bool) : Aggregation → Tally → Tally → Prop
  | count (n : Nat) : Agrees legible exact .count (.count n) (.count n)
  | countIf (n : Nat) : Agrees legible exact .countIf (.countIf n) (.countIf n)
  | countDistinct (ids : List String) :
      Agrees legible exact .countDistinct (.countDistinct ids) (.countDistinct ids)
  | sum (total : Option Number) : Agrees legible exact .sum (.sum total) (.sum total)
  | average (total : Double) (n : Nat) : Agrees legible exact .average (.average total n) (.average total n)
  | minimum {best best' : Option Value} : Option.Rel (Value.Agrees legible exact) best best' →
      Agrees legible exact .minimum (.extreme .lt best) (.extreme .lt best')
  | maximum {best best' : Option Value} : Option.Rel (Value.Agrees legible exact) best best' →
      Agrees legible exact .maximum (.extreme .gt best) (.extreme .gt best')

theorem Value.Agrees.isTrue_eq (h : v.Agrees legible exact w) : v.isTrue = w.isTrue := by
  cases h <;> rfl

theorem Value.Agrees.number_eq (h : v.Agrees legible true w) : Number.ofValue? v = Number.ofValue? w := by
  cases h with
  | double same => exact congrArg some same
  | integerDouble same => cases (show Number.integer _ = .double _ from same)
  | doubleInteger same => cases (show Number.double _ = .integer _ from same)
  | _ => rfl

namespace Tally.Agrees

theorem start (kind : Aggregation) : Agrees legible exact kind (.start kind) (.start kind) := by
  cases kind with
  | minimum => exact .minimum .none
  | maximum => exact .maximum .none
  | _ => constructor

theorem addRow (h : Agrees legible exact kind t t') : Agrees legible exact kind t.addRow t'.addRow := by
  cases h with
  | minimum best => exact .minimum best
  | maximum best => exact .maximum best
  | _ => constructor

theorem add (h : Agrees legible exact kind t t') (hv : v.Agrees legible (kind.needs exact) w) :
    Agrees legible exact kind (t.add v) (t'.add w) := by
  cases h with
  | count n =>
    rw [Tally.add, Tally.add, hv.isNull_eq]
    exact .count _
  | countIf n =>
    rw [Tally.add, Tally.add, hv.isTrue_eq]
    exact .countIf _
  | countDistinct ids =>
    rw [Tally.add, Tally.add, hv.isNull_eq, hv.canonical_eq]
    exact .countDistinct _
  | sum total =>
    rw [Tally.add, Tally.add, Value.Agrees.number_eq hv]
    cases Number.ofValue? w <;> exact .sum _
  | average total n =>
    rw [Tally.add, Tally.add, Value.Agrees.number_eq hv]
    cases Number.ofValue? w <;> exact .average _ _
  | minimum best => exact .minimum (betterOf_rel .lt best hv)
  | maximum best => exact .maximum (betterOf_rel .gt best hv)

theorem feed (h : Agrees legible exact kind t t') {arg arg' : Option Outcome}
    (given : Option.Rel (Outcome.Agrees legible (kind.needs exact)) arg arg') :
    Agrees legible exact kind (t.feed arg) (t'.feed arg') := by
  cases given with
  | none => exact h.addRow
  | some outcome =>
    cases outcome with
    | value hv => exact h.add hv
    | absent => exact h
    | error => exact h

theorem result (h : Agrees legible exact kind t t') : t.result.Agrees legible exact t'.result := by
  cases h with
  | count n => exact .integer _
  | countIf n => exact .integer _
  | countDistinct ids => exact .integer _
  | sum total =>
    cases total with
    | none => exact .null
    | some n => exact Value.Agrees.number_iff.mpr ⟨n, rfl, .refl n⟩
  | average total n =>
    rw [Tally.result]
    split
    · exact .null
    · exact .double (.refl _)
  | minimum best => exact getD_null best
  | maximum best => exact getD_null best

end Tally.Agrees
end Tallies

section Buckets

variable {legible : DocumentKey → Prop} {before after : Bool} {rows rows' : List Row} {a b : Row}
  {gs hs : List Assignment} {as bs : List Accumulator}

/-- Totals of two steps that come to results that agree. -/
def Accumulator.Alike (legible : DocumentKey → Prop) (before after : Bool) (x y : Accumulator) : Prop :=
  x.Matches legible y ∧ x.settled before after y

abbrev AccumulatorsPaired (legible : DocumentKey → Prop) (before after : Bool) :
    List Accumulator → List Accumulator → Prop :=
  Paired (·.path) (Accumulator.Alike legible before after)

theorem accumulators_paired (matched : AccumulatorsMatch legible as bs)
    (settled : accumulatorsSettled before after as bs)
    (order : as.map (·.text) = bs.map (·.text) ∨ as.Pairwise fun x y => x.path.Apart y.path) :
    AccumulatorsPaired legible before after as bs :=
  paired_of_inTextOrder order (forall₂_and_zip matched settled)

theorem argument_rel (rules : RegexRules) (h : a.Agrees legible before b) {x y : Accumulator}
    (alike : x.Alike legible before after y) :
    Option.Rel (Outcome.Agrees legible (x.kind.needs after)) (argument rules a x) (argument rules b y) := by
  obtain ⟨⟨_, _, args⟩, settled⟩ := alike
  unfold argument
  rw [Accumulator.settled] at settled
  generalize x.args = xs, y.args = ys at args settled
  cases args with
  | nil => exact .none
  | cons first _ => exact .some (evaluate_agrees rules h _ _ _ first settled)

/-- What two runs know of one group: keys that agree as fields, and a total for each accumulator. -/
def Bucket.Agrees (legible : DocumentKey → Prop) (before after : Bool) (gs hs : List Assignment)
    (as bs : List Accumulator) (x y : Bucket) : Prop :=
  FieldsAgree legible after (keyFields gs x.keys) (keyFields hs y.keys) ∧
    ∃ T T' : Accumulator → Tally, x.tallies = as.map T ∧ y.tallies = bs.map T' ∧
      ∀ u w, u.Alike legible before after w → Tally.Agrees legible after u.kind (T u) (T' w)

namespace Bucket.Agrees

theorem empty {keys keys' : List Value}
    (fields : FieldsAgree legible after (keyFields gs keys) (keyFields hs keys')) :
    Bucket.Agrees legible before after gs hs as bs (.empty as keys) (.empty bs keys') := by
  refine ⟨fields, _, _, rfl, rfl, fun u w alike => ?_⟩
  rw [← alike.1.2.1]
  exact .start u.kind

theorem feed (rules : RegexRules) (row : a.Agrees legible before b) {x y : Bucket}
    (h : Bucket.Agrees legible before after gs hs as bs x y) :
    Bucket.Agrees legible before after gs hs as bs (x.feed (as.map (argument rules a)))
      (y.feed (bs.map (argument rules b))) := by
  obtain ⟨fields, T, T', left, right, agree⟩ := h
  refine ⟨fields, fun u => (T u).feed (argument rules a u), fun w => (T' w).feed (argument rules b w), ?_, ?_, ?_⟩
  · rw [Bucket.feed, left, List.zipWith_map, List.zipWith_self]
  · rw [Bucket.feed, right, List.zipWith_map, List.zipWith_self]
  · exact fun u w alike => (agree u w alike).feed (argument_rel rules row alike)

theorem toRow (accumulators : AccumulatorsPaired legible before after as bs) {x y : Bucket}
    (h : Bucket.Agrees legible before after gs hs as bs x y) :
    (x.toRow gs as).Agrees legible after (y.toRow hs bs) := by
  obtain ⟨fields, T, T', left, right, agree⟩ := h
  have totals (us : List Accumulator) (T : Accumulator → Tally) :
      (us.map (·.path)).zip ((us.map T).map Tally.result) =
        us.filterMap fun u => (some (T u).result).map (u.path, ·) := by
    simp only [List.map_map, List.zip_map', Option.map_some, List.filterMap_eq_map', Function.comp_apply]
  rw [Bucket.toRow, Bucket.toRow, left, right, totals, totals]
  exact .ofFields <| writeFields_paired fields accumulators fun u w alike => ⟨alike.1.1, .some (agree u w alike).result⟩

end Bucket.Agrees

/-- What rows that agree contribute to their group. -/
def ContributionsAgree (legible : DocumentKey → Prop) (before : Bool) (rules : RegexRules) (gs hs : List Assignment)
    (as bs : List Accumulator) (c d : Contribution) : Prop :=
  ∃ a b : Row, a.Agrees legible before b ∧
    c = ⟨gs.map (groupKey rules a), as.map (argument rules a)⟩ ∧
    d = ⟨hs.map (groupKey rules b), bs.map (argument rules b)⟩

theorem aggregateRows_agree (rules : RegexRules) (h : RowsAgree legible before rows rows')
    (groups : GroupsPaired legible before after gs hs) (accumulators : AccumulatorsPaired legible before after as bs) :
    RowsAgree legible after (aggregateRows rules gs as rows).value (aggregateRows rules hs bs rows').value := by
  have contributions : List.Forall₂ (ContributionsAgree legible before rules gs hs as bs)
      (rows.filterMap (contribution? rules gs as)) (rows'.filterMap (contribution? rules hs bs)) := by
    refine List.rel_filterMap (fun a b row => ?_) h
    unfold contribution?
    rcases readGroupKeys_rel rules row groups.1 with ⟨left, right⟩ | ⟨left, right⟩
    · rw [left, right]
      exact .none
    · rw [left, right]
      exact .some ⟨a, b, row, rfl, rfl⟩
  have start : Keyed (GroupTexts legible before rules gs hs) (Bucket.Agrees legible before after gs hs as bs)
      (initialBuckets gs as) (initialBuckets hs bs) := by
    obtain ⟨⟨cs, related, order⟩, _⟩ := groups
    have size : gs.length = hs.length := by
      rcases order with rfl | ⟨_, perm⟩
      · exact related.length_eq
      · exact related.length_eq.trans perm.length_eq
    have alike : (Row.ofFields []).Agrees legible before (Row.ofFields []) := .ofFields .nil
    cases gs with
    | nil =>
      obtain rfl := List.length_eq_zero_iff.mp size.symm
      exact .cons ⟨⟨_, _, alike, rfl, rfl⟩, .empty .nil⟩ .nil
    | cons g gs =>
      cases hs with
      | nil => contradiction
      | cons => exact .nil
  have step (x x' : List (String × Bucket))
      (agree : Keyed (GroupTexts legible before rules gs hs) (Bucket.Agrees legible before after gs hs as bs) x x')
      (c d : Contribution) (contribution : ContributionsAgree legible before rules gs hs as bs c d) :
      Keyed (GroupTexts legible before rules gs hs) (Bucket.Agrees legible before after gs hs as bs)
        (collect as x c) (collect bs x' d) := by
    obtain ⟨a, b, row, rfl, rfl⟩ := contribution
    refine updateEntry_rel (groupTexts_unique rules groups) agree ⟨a, b, row, rfl, rfl⟩
      (.empty (keyFields_agree rules row groups.1)) fun x y bucket => bucket.feed rules row
  have buckets := List.rel_foldl (fun x x' agree c d => step x x' agree c d) start contributions
  rw [aggregateRows_value, aggregateRows_value]
  exact forall₂_map_map.mpr (buckets.imp fun _ _ entry => entry.2.toRow accumulators)

end Buckets
end DocQuery
