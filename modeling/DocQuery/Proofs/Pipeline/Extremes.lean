import DocQuery.Proofs.Pipeline.Counting

/-! Extreme values. A total and a function that look for one come to the same value of the same outcomes: the first that
none of the others lies beyond in the total order. -/
namespace DocQuery

/-- The values among outcomes that are not null. -/
def concreteValues (os : List Outcome) : List Value := (os.filterMap Outcome.value?).filter fun v => !v.isNull

/-- The first of some values that none of them lies beyond, on the wanted side. -/
def firstUnbeaten? (wanted : Ordering) (vs : List Value) : Option Value :=
  vs.find? fun v => vs.all fun w => w.order v != wanted

/-- Totals and functions that look for an extreme, and the side on which they do. -/
inductive SeekAlike : Aggregation → Selection → Ordering → Prop
  | maximum : SeekAlike .maximum .maximum .gt
  | minimum : SeekAlike .minimum .minimum .lt

section Order

variable {wanted : Ordering} {u v w : Value}

theorem Value.order_ne_of_order (side : wanted ≠ .eq) (beyond : v.order w = wanted) : w.order v ≠ wanted := by
  cases wanted with
  | lt => exact Std.OrientedCmp.not_lt_of_lt beyond
  | eq => contradiction
  | gt => exact Std.OrientedCmp.not_gt_of_gt beyond

/-- What lies beyond a value lies beyond all that do not. -/
theorem Value.order_of_order_ne (side : wanted ≠ .eq) (beyond : v.order w = wanted) (short : u.order w ≠ wanted) :
    v.order u = wanted := by
  cases wanted with
  | lt => exact Std.TransCmp.lt_of_lt_of_isLE beyond (Std.OrientedCmp.isGE_iff_isLE.mp (Ordering.isGE_iff_ne_lt.mpr short))
  | eq => contradiction
  | gt => exact Std.TransCmp.gt_of_gt_of_isGE beyond (Std.OrientedCmp.isGE_iff_isLE.mpr (Ordering.isLE_iff_ne_gt.mpr short))

end Order

/-- A value beyond all before it, with none after it beyond. -/
def FirstExtreme (wanted : Ordering) (vs : List Value) (best : Value) : Prop :=
  ∃ before after, vs = before ++ best :: after ∧ (∀ v ∈ before, best.order v = wanted) ∧
    ∀ v ∈ after, v.order best ≠ wanted

namespace FirstExtreme

variable {wanted : Ordering} {vs ws : List Value} {best v : Value}

theorem not_beaten (side : wanted ≠ .eq) (h : FirstExtreme wanted vs best) (hv : v ∈ vs) : v.order best ≠ wanted := by
  obtain ⟨before, after, rfl, beyond, short⟩ := h
  rcases List.mem_append.mp hv with hv | hv
  · exact Value.order_ne_of_order side (beyond v hv)
  · rcases List.mem_cons.mp hv with rfl | hv
    · have tie : v.order v = .eq := Std.ReflCmp.compare_self
      exact fun beyond => side (beyond.symm.trans tie)
    · exact short v hv

theorem firstUnbeaten?_eq (side : wanted ≠ .eq) (h : FirstExtreme wanted vs best) :
    firstUnbeaten? wanted vs = some best := by
  have unbeaten : (vs.all fun w => w.order best != wanted) = true :=
    List.all_eq_true.mpr fun w hw => bne_iff_ne.mpr (h.not_beaten side hw)
  obtain ⟨before, after, rfl, beyond, _⟩ := h
  -- What stands before it is beaten by the extreme itself.
  refine List.find?_eq_some_iff_append.mpr ⟨unbeaten, before, after, rfl, fun v hv => ?_⟩
  simp only [Bool.not_eq_true', List.all_eq_false]
  exact ⟨best, by simp, by simp [beyond v hv]⟩

theorem singleton (v : Value) : FirstExtreme wanted [v] v := ⟨[], [], rfl, by simp, by simp⟩

/-- One more value. -/
theorem concat (side : wanted ≠ .eq) (h : FirstExtreme wanted vs best) (v : Value) :
    FirstExtreme wanted (vs ++ [v]) (if v.order best = wanted then v else best) := by
  split
  next beats =>
    refine ⟨vs, [], rfl, fun u hu => ?_, by simp⟩
    exact Value.order_of_order_ne side beats (h.not_beaten side hu)
  next short =>
    obtain ⟨before, after, rfl, beyond, rest⟩ := h
    refine ⟨before, after ++ [v], by simp, beyond, fun u hu => ?_⟩
    rcases List.mem_append.mp hu with hu | hu
    · exact rest u hu
    · rwa [List.mem_singleton.mp hu]

end FirstExtreme

section Folds

variable {wanted : Ordering} {vs ws : List Value}

theorem foldl_betterOf_some (side : wanted ≠ .eq) {best : Value} (h : FirstExtreme wanted vs best)
    (concrete : ∀ v ∈ ws, v.isNull = false) :
    ∃ last, ws.foldl (betterOf wanted) (some best) = some last ∧ FirstExtreme wanted (vs ++ ws) last := by
  induction ws generalizing vs best with
  | nil => exact ⟨best, rfl, by rwa [List.append_nil]⟩
  | cons v ws ih =>
    obtain ⟨some, concrete⟩ := List.forall_mem_cons.mp concrete
    have kept : betterOf wanted (Option.some best) v = Option.some (if v.order best = wanted then v else best) := by
      rw [betterOf, some, if_neg Bool.false_ne_true]
      split <;> rfl
    obtain ⟨last, folded, extreme⟩ := ih (h.concat side v) concrete
    rw [List.append_assoc] at extreme
    exact ⟨last, by rw [List.foldl_cons, kept, folded], extreme⟩

theorem foldl_betterOf_concrete (side : wanted ≠ .eq) (concrete : ∀ v ∈ vs, v.isNull = false) :
    vs.foldl (betterOf wanted) none = firstUnbeaten? wanted vs := by
  cases vs with
  | nil => rfl
  | cons v vs =>
    obtain ⟨some, concrete⟩ := List.forall_mem_cons.mp concrete
    have start : betterOf wanted none v = Option.some v := by
      rw [betterOf, some, if_neg Bool.false_ne_true]
    obtain ⟨last, folded, extreme⟩ := foldl_betterOf_some side (.singleton v) concrete
    rw [List.foldl_cons, start, folded]
    exact (extreme.firstUnbeaten?_eq side).symm

theorem firstUnbeaten?_of_ne_nil (side : wanted ≠ .eq) (concrete : ∀ v ∈ vs, v.isNull = false) (some : vs ≠ []) :
    ∃ best, firstUnbeaten? wanted vs = Option.some best := by
  obtain ⟨v, vs, rfl⟩ := List.exists_cons_of_ne_nil some
  obtain ⟨best, _, extreme⟩ := foldl_betterOf_some side (.singleton v) (List.forall_mem_cons.mp concrete).2
  exact ⟨best, extreme.firstUnbeaten?_eq side⟩

theorem concreteValues_concrete {os : List Outcome} : ∀ v ∈ concreteValues os, v.isNull = false := by
  intro v hv
  simpa using (List.mem_filter.mp hv).2

/-- Null values are passed over. -/
theorem foldl_betterOf (side : wanted ≠ .eq) (os : List Outcome) :
    (os.filterMap Outcome.value?).foldl (betterOf wanted) none = firstUnbeaten? wanted (concreteValues os) := by
  have passes : betterOf wanted = fun best v => if (!v.isNull) = true then betterOf wanted best v else best := by
    funext best v
    cases null : v.isNull with
    | true => simp [betterOf, null]
    | false => rfl
  rw [← foldl_betterOf_concrete side concreteValues_concrete, concreteValues, List.foldl_filter, ← passes]

end Folds

section Totals

variable {wanted : Ordering}

theorem foldl_add_extreme (vs : List Value) (best : Option Value) :
    vs.foldl Tally.add (.extreme wanted best) = .extreme wanted (vs.foldl (betterOf wanted) best) := by
  induction vs generalizing best with
  | nil => rfl
  | cons v vs ih => exact ih (betterOf wanted best v)

theorem SeekAlike.side {kind : Aggregation} {s : Selection} (alike : SeekAlike kind s wanted) : wanted ≠ .eq := by
  cases alike <;> decide

/-- The value that totals and functions keep of outcomes. -/
def extremeOf (wanted : Ordering) (os : List Outcome) : Value := (firstUnbeaten? wanted (concreteValues os)).getD .null

theorem SeekAlike.total_eq {kind : Aggregation} {s : Selection} (alike : SeekAlike kind s wanted) (os : List Outcome) :
    (os.foldl (fun t o => t.feed (some o)) (Tally.start kind)).result = extremeOf wanted os := by
  have start : Tally.start kind = .extreme wanted none := by
    cases alike <;> rfl
  rw [Tally.foldl_feed_some, start, foldl_add_extreme, foldl_betterOf alike.side]
  rfl

theorem SeekAlike.apply_eq {kind : Aggregation} {s : Selection} (alike : SeekAlike kind s wanted) (os : List Outcome) :
    s.apply os = .value (extremeOf wanted os) := by
  have applied : s.apply os = .value (firstExtreme wanted os) := by
    cases alike <;> rfl
  rw [applied, firstExtreme, foldl_betterOf alike.side]
  rfl

theorem SeekAlike.run_eq {kind : Aggregation} {s : Selection} (alike : SeekAlike kind s wanted) (rules : RegexRules)
    (rows : List Row) (path : FieldPath) (arg : Expr) (more : List Expr) :
    ((Step.aggregate [] [⟨path, kind, arg :: more⟩]).run rules rows).value =
      [.ofFields (setField [] path.segments (extremeOf wanted (rows.map fun row => evaluate rules row arg)))] := by
  rw [run_total, totalOver_argument, alike.total_eq]

/-- There is an extreme as soon as there is a value. -/
theorem extremeOf_eq_null_iff (side : wanted ≠ .eq) (os : List Outcome) :
    extremeOf wanted os = .null ↔ concreteValues os = [] := by
  constructor
  · intro null
    by_contra some
    obtain ⟨best, found⟩ := firstUnbeaten?_of_ne_nil side concreteValues_concrete some
    have concrete := concreteValues_concrete best (List.mem_of_find?_eq_some found)
    obtain rfl : best = .null := by simpa [extremeOf, found] using null
    contradiction
  · intro none
    rw [extremeOf, none]
    rfl

/-- Of the same outcomes a total and a function that look for an extreme keep the same value: the first concrete one that
no other one lies beyond, or null where there is none. -/
theorem extremes_of_outcomes {kind : Aggregation} {s : Selection} (alike : SeekAlike kind s wanted) (rules : RegexRules)
    (os : List Outcome) :
    let values := concreteValues os
    let extreme := (values.find? fun v => values.all fun w => w.order v != wanted).getD .null
    (os.foldl (fun t o => t.feed (some o)) (Tally.start kind)).result = extreme ∧
      (∀ rows path arg more, (rows.map fun row => evaluate rules row arg) = os →
        ((Step.aggregate [] [⟨path, kind, arg :: more⟩]).run rules rows).value =
          [.ofFields (setField [] path.segments extreme)]) ∧
      (∀ row e args, e.application? = some (.selection s, args) → args ≠ [] → args.map (evaluate rules row) = os →
        evaluate rules row e = .value extreme) ∧
      (extreme = .null ↔ values = []) := by
  intro values extreme
  refine ⟨alike.total_eq os, ?_, ?_, extremeOf_eq_null_iff alike.side os⟩
  · rintro rows path arg more rfl
    exact alike.run_eq rules rows path arg more
  · rintro row e args call some rfl
    have admitted : (Builtin.selection s).arity.admits (args.map (evaluate rules row)).length = true := by
      have positive := List.length_pos_iff.mpr some
      rw [List.length_map]
      cases alike <;> exact decide_eq_true positive
    rw [evaluate_application call, Builtin.apply, if_pos admitted]
    exact alike.apply_eq _

/-- Nothing and null are passed over, and of numbers that tie the first one is kept. -/
theorem extremes_of_tied_numbers :
    let n : Expr := .field ⟨["n"]⟩
    let rows : List Row := [.ofFields [], .ofFields [("n", .null)], .ofFields [("n", .boolean true)],
      .ofFields [("n", .integer 1)], .ofFields [("n", .double .one)]]
    let row : Row := .ofFields []
    let args : List Expr := [n, .constant .null, .constant (.boolean true), .constant (.integer 1), .constant (.double .one)]
    let highest : Expr := .call (.selection .maximum) args
    SeekAlike .maximum .maximum .gt ∧ args ≠ [] ∧
      args.map (evaluate 100 row) = rows.map (fun row => evaluate 100 row n) ∧
      ((Step.aggregate [] [⟨⟨["highest"]⟩, .maximum, [n]⟩]).run 100 rows).value =
        [.ofFields (setField [] ["highest"] (.integer 1))] ∧
      evaluate 100 row highest = .value (.integer 1) := by
  intro n rows row args highest
  have some : args ≠ [] := List.cons_ne_nil _ _
  have same : args.map (evaluate 100 row) = rows.map fun row => evaluate 100 row n := rfl
  have first : firstUnbeaten? .gt (concreteValues (rows.map fun row => evaluate 100 row n)) = .some (.integer 1) := by
    have beyond : Value.order (.integer 1) (.boolean true) = .gt := by decide +kernel
    have tie : Value.order (.double .one) (.integer 1) ≠ .gt := by decide +kernel
    refine FirstExtreme.firstUnbeaten?_eq (by decide) ⟨[.boolean true], [.double .one], rfl, ?_, ?_⟩
    · exact List.forall_mem_singleton.mpr beyond
    · exact List.forall_mem_singleton.mpr tie
  obtain ⟨_, total, function, _⟩ := extremes_of_outcomes .maximum 100 (rows.map fun row => evaluate 100 row n)
  rw [← firstUnbeaten?, first] at total function
  exact ⟨.maximum, some, same, total rows ⟨["highest"]⟩ n [] rfl, function row highest args rfl some same⟩

end Totals
end DocQuery
