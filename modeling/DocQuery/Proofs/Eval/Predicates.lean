import DocQuery.Proofs.Eval.Agreement

/-! Comparisons, connectives and selections on operands that agree. Comparisons and connectives have
exactly the same outcomes, even where their operands differ in spelling. -/
namespace DocQuery

variable {legible : DocumentKey → Prop} {exact grade : Bool} {o o' : Outcome} {args args' : List Outcome}

theorem Relation.holds_congr (r : Relation) {v v' w w' : Value} (hv : v.Agrees legible exact v')
    (hw : w.Agrees legible exact w') : r.holds v w = r.holds v' w' := by
  cases r <;> simp only [holds, hv.equals_congr hw, hv.compare?_congr hw]

theorem Relation.apply_agrees (r : Relation) {a a' b b' : Outcome} (ha : a.Agrees legible exact a')
    (hb : b.Agrees legible exact b') : (r.apply a b).Agrees legible grade (r.apply a' b') := by
  cases ha with
  | error => exact .error _ _
  | absent =>
    cases hb with
    | error => exact .error _ _
    | _ => exact .boolean _
  | value hv =>
    cases hb with
    | error => exact .error _ _
    | absent => exact .boolean _
    | value hw =>
      rw [apply, apply, r.holds_congr hv hw]
      exact .boolean _

theorem Inspection.holds_congr (i : Inspection) {v v' : Value} (hv : v.Agrees legible exact v') :
    i.holds v = i.holds v' := by
  cases i <;> simp only [holds, hv.isNull_eq, hv.isNumber_eq, hv.isNaN_eq]

theorem Inspection.apply_agrees (i : Inspection) (h : o.Agrees legible exact o') :
    (i.apply o).Agrees legible grade (i.apply o') := by
  cases h with
  | error => exact .error _ _
  | absent => exact .boolean _
  | value hv =>
    rw [apply, apply, i.holds_congr hv]
    exact .boolean _

theorem presentValues_agree (h : List.Forall₂ (Outcome.Agrees legible exact) args args') :
    ResultsAgree (List.Forall₂ (Value.Agrees legible exact)) (presentValues args) (presentValues args') := by
  induction h with
  | nil => exact .ok .nil
  | cons first _ ih =>
    cases first with
    | error => exact .error _ _
    | absent => exact ih
    | value hv => exact ih.bind fun _ _ rest => .ok (.cons hv rest)

theorem candidates_several (a b : Outcome) (rest : List Outcome) :
    candidates (a :: b :: rest) = (do return some (← presentValues (a :: b :: rest))) := by
  cases a with
  | value v => cases v <;> rfl
  | _ => rfl

theorem candidates_agree (h : List.Forall₂ (Outcome.Agrees legible exact) args args') :
    ResultsAgree (Option.Rel (List.Forall₂ (Value.Agrees legible exact)))
      (candidates args) (candidates args') := by
  cases h with
  | nil => exact .ok (.some .nil)
  | cons first rest =>
    cases rest with
    | nil =>
      cases first with
      | error => exact .error _ _
      | absent => exact .ok .none
      | value hv =>
        cases hv with
        | array items => exact .ok (.some items)
        | _ => exact .ok .none
    | cons second rest =>
      rw [candidates_several, candidates_several]
      exact (presentValues_agree (.cons first (.cons second rest))).bind
        fun _ _ items => .ok (.some items)

theorem any_congr {R : α → β → Prop} {as : List α} {bs : List β} {p : α → Bool} {q : β → Bool}
    (h : List.Forall₂ R as bs) (congr : ∀ a b, R a b → p a = q b) : as.any p = bs.any q := by
  induction h with
  | nil => rfl
  | cons first _ ih => rw [List.any_cons, List.any_cons, congr _ _ first, ih]

theorem all_congr {R : α → β → Prop} {as : List α} {bs : List β} {p : α → Bool} {q : β → Bool}
    (h : List.Forall₂ R as bs) (congr : ∀ a b, R a b → p a = q b) : as.all p = bs.all q := by
  induction h with
  | nil => rfl
  | cons first _ ih => rw [List.all_cons, List.all_cons, congr _ _ first, ih]

theorem Membership.apply_agrees (m : Membership) (h : o.Agrees legible exact o')
    (rest : List.Forall₂ (Outcome.Agrees legible exact) args args') :
    (m.apply o args).Agrees legible grade (m.apply o' args') := by
  have listed := candidates_agree rest
  unfold apply
  generalize candidates args = x, candidates args' = y at listed
  cases listed with
  | error => exact .error _ _
  | ok items =>
    cases h with
    | error => exact .error _ _
    | absent => exact .boolean _
    | value hv =>
      cases items with
      | none => exact .boolean _
      | some items =>
        have same := any_congr items fun _ _ hc => hv.equals_congr hc
        simp only [same]
        exact .boolean _

theorem Containment.holdsIn_congr {items items' : List Value} {v v' : Value}
    (h : List.Forall₂ (Value.Agrees legible exact) items items') (hv : v.Agrees legible exact v') :
    holdsIn items v = holdsIn items' v' :=
  any_congr h fun _ _ item => item.equals_congr hv

theorem Containment.inArray_agrees {w w' : Outcome} (h : o.Agrees legible exact o')
    (hw : w.Agrees legible exact w') : (inArray o w).Agrees legible grade (inArray o' w') := by
  cases h with
  | error => exact .error _ _
  | absent =>
    cases hw with
    | error => exact .error _ _
    | _ => exact .boolean _
  | value hv =>
    cases hw with
    | error => cases hv <;> exact .error _ _
    | absent => cases hv <;> exact .boolean _
    | value hw =>
      cases hv with
      | array items =>
        rw [inArray, inArray, holdsIn_congr items hw]
        exact .boolean _
      | _ => exact .boolean _

theorem Containment.severalInArray_agrees (c : Containment) (h : o.Agrees legible exact o')
    (rest : List.Forall₂ (Outcome.Agrees legible exact) args args') :
    (c.severalInArray o args).Agrees legible grade (c.severalInArray o' args') := by
  have listed := candidates_agree rest
  unfold severalInArray
  generalize candidates args = x, candidates args' = y at listed
  cases listed with
  | error => exact .error _ _
  | ok wanted =>
    cases h with
    | error => exact .error _ _
    | absent => exact .boolean _
    | value hv =>
      cases wanted with
      | none => cases hv <;> exact .boolean _
      | some wanted =>
        cases hv with
        | array items =>
          have every := all_congr wanted fun _ _ hw => holdsIn_congr items hw
          have any := any_congr wanted fun _ _ hw => holdsIn_congr items hw
          simp only [every, any]
          exact .boolean _
        | _ => exact .boolean _

theorem Connective.dominated_agrees (f : Builtin) (dominant : Bool) (fault fault' : Option EvalError)
    (first : fault.isSome = fault'.isSome) (h : List.Forall₂ (Outcome.Agrees legible exact) args args') :
    (dominated f dominant fault args).Agrees legible grade (dominated f dominant fault' args') := by
  induction h generalizing fault fault' with
  | nil =>
    cases fault <;> cases fault' <;> first | contradiction | exact .boolean _ | exact .error _ _
  | @cons o o' _ _ head _ ih =>
    have truth := head.truth f
    rw [dominated, dominated]
    generalize o.truth f = x, o'.truth f = y at truth
    cases truth with
    | error => exact ih _ _ (by cases fault <;> cases fault' <;> first | contradiction | rfl)
    | @ok b c same =>
      cases same
      by_cases hb : b = dominant
      · simp only [hb]
        exact .boolean _
      · simp only [if_neg hb]
        exact ih _ _ first

theorem Connective.parity_agrees (f : Builtin) (odd : Bool)
    (h : List.Forall₂ (Outcome.Agrees legible exact) args args') :
    (parity f odd args).Agrees legible grade (parity f odd args') := by
  induction h generalizing odd with
  | nil => exact .boolean _
  | @cons o o' _ _ head _ ih =>
    have truth := head.truth f
    rw [parity, parity]
    generalize o.truth f = x, o'.truth f = y at truth
    cases truth with
    | error => exact .error _ _
    | ok same =>
      cases same
      exact ih _

theorem Connective.negate_agrees (f : Builtin) (h : o.Agrees legible exact o') :
    (negate f o).Agrees legible grade (negate f o') := by
  have truth := h.truth f
  rw [negate, negate]
  generalize o.truth f = x, o'.truth f = y at truth
  cases truth with
  | error => exact .error _ _
  | ok same =>
    cases same
    exact .boolean _

theorem Connective.apply_agrees (c : Connective)
    (h : List.Forall₂ (Outcome.Agrees legible exact) args args') :
    (c.apply args).Agrees legible grade (c.apply args') := by
  cases c with
  | and => exact dominated_agrees _ _ _ _ rfl h
  | or => exact dominated_agrees _ _ _ _ rfl h
  | xor => exact parity_agrees _ _ h
  | not =>
    cases h with
    | nil => exact .error _ _
    | cons first rest =>
      cases rest with
      | nil => exact negate_agrees _ first
      | cons => exact .error _ _

theorem betterOf_rel (wanted : Ordering) {best best' : Option Value} {v v' : Value}
    (h : Option.Rel (Value.Agrees legible exact) best best') (hv : v.Agrees legible exact v') :
    Option.Rel (Value.Agrees legible exact) (betterOf wanted best v) (betterOf wanted best' v') := by
  unfold betterOf
  rw [hv.isNull_eq]
  split
  next => exact h
  next =>
    cases h with
    | none => exact .some hv
    | some current =>
      simp only [hv.order_congr current]
      split
      next => exact .some hv
      next => exact .some current

theorem getD_null {best best' : Option Value} (h : Option.Rel (Value.Agrees legible exact) best best') :
    (best.getD .null).Agrees legible exact (best'.getD .null) := by
  cases h with
  | none => exact .null
  | some hv => exact hv

theorem firstExtreme_agrees (wanted : Ordering)
    (h : List.Forall₂ (Outcome.Agrees legible exact) args args') :
    (firstExtreme wanted args).Agrees legible exact (firstExtreme wanted args') := by
  have values := List.rel_filterMap (fun _ _ h => Outcome.Agrees.value?_rel h) h
  have fold := List.rel_foldl (P := Option.Rel (Value.Agrees legible exact))
    (R := Value.Agrees legible exact) fun _ _ best _ _ hv => betterOf_rel wanted best hv
  exact getD_null (fold .none values)

theorem ifError_agrees {fallback fallback' : Outcome} (h : o.Agrees legible exact o')
    (h' : fallback.Agrees legible exact fallback') :
    (ifError o fallback).Agrees legible exact (ifError o' fallback') := by
  cases h with
  | error => exact h'
  | absent => exact .absent
  | value hv => exact .value hv

theorem conditional_agrees {yes yes' no no' : Outcome} (h : o.Agrees legible exact o')
    (hy : yes.Agrees legible exact yes') (hn : no.Agrees legible exact no') :
    (conditional o yes no).Agrees legible exact (conditional o' yes' no') := by
  have same := h.isTrue_eq
  cases h with
  | error => exact .error _ _
  | _ =>
    simp only [conditional, same]
    split
    next => exact hy
    next => exact hn

theorem Outcome.Agrees.isError_eq (h : o.Agrees legible exact o') : o.isError = o'.isError := by
  cases h <;> rfl

end DocQuery
