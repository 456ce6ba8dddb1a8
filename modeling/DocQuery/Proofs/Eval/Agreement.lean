import DocQuery.Eval.Apply
import DocQuery.Proofs.Value.Agreement

/-! Agreement of outcomes, and what functions read from outcomes that agree. Which error an outcome is
does not count: no value ever depends on it. -/
namespace DocQuery

/-- Results that are both errors, whichever, or related values. -/
inductive ResultsAgree (R : α → β → Prop) : Except EvalError α → Except EvalError β → Prop
  | ok {a : α} {b : β} : R a b → ResultsAgree R (.ok a) (.ok b)
  | error (e e' : EvalError) : ResultsAgree R (.error e) (.error e')

namespace ResultsAgree

theorem refl {R : α → α → Prop} (related : ∀ a, R a a) (x : Except EvalError α) : ResultsAgree R x x := by
  cases x with
  | ok a => exact .ok (related a)
  | error e => exact .error e e

theorem bind {R : α → β → Prop} {S : γ → δ → Prop} {x : Except EvalError α} {y : Except EvalError β}
    {f : α → Except EvalError γ} {g : β → Except EvalError δ} (h : ResultsAgree R x y)
    (next : ∀ a b, R a b → ResultsAgree S (f a) (g b)) : ResultsAgree S (x >>= f) (y >>= g) := by
  cases h with
  | ok related => exact next _ _ related
  | error e e' => exact .error e e'

theorem bind_eq {S : γ → δ → Prop} {x y : Except EvalError α} {f : α → Except EvalError γ}
    {g : α → Except EvalError δ} (h : ResultsAgree Eq x y) (next : ∀ a, ResultsAgree S (f a) (g a)) :
    ResultsAgree S (x >>= f) (y >>= g) :=
  h.bind fun a _ same => same ▸ next a

theorem map {R : α → β → Prop} {S : γ → δ → Prop} {x : Except EvalError α} {y : Except EvalError β}
    {f : α → γ} {g : β → δ} (h : ResultsAgree R x y) (next : ∀ a b, R a b → S (f a) (g b)) :
    ResultsAgree S (x.map f) (y.map g) := by
  cases h with
  | ok related => exact .ok (next _ _ related)
  | error e e' => exact .error e e'

end ResultsAgree

/-- Outcomes of one kind whose values agree. -/
inductive Outcome.Agrees (legible : DocumentKey → Prop) (exact : Bool) : Outcome → Outcome → Prop
  | value {v w : Value} : v.Agrees legible exact w → Agrees legible exact (.value v) (.value w)
  | absent : Agrees legible exact .absent .absent
  | error (e e' : EvalError) : Agrees legible exact (.error e) (.error e')

theorem vectorEntries_agree {legible : DocumentKey → Prop} {exact : Bool} {as bs : List Double}
    (h : List.Forall₂ (Double.Agrees exact) as bs) :
    Entries.Agree (Value.Agrees legible exact) (Value.vectorEntries as) (Value.vectorEntries bs) := by
  have items : (Value.array (as.map .double)).Agrees legible exact (.array (bs.map .double)) := by
    refine .array (forall₂_map_map.mpr ?_)
    exact h.imp fun _ _ => .double
  have pairs (components : List Double) : Value.vectorEntries components =
      Entries.insert Value.vectorItemsKey (.array (components.map .double))
        (Entries.insert Value.vectorTypeKey (.string Value.vectorTypeName) []) := by
    simp [Value.vectorEntries, Entries.insert, Value.vectorTypeKey, Value.vectorItemsKey]
  rw [pairs, pairs]
  exact (Entries.Agree.nil.insert (.string _)).insert items

namespace Outcome.Agrees

variable {legible : DocumentKey → Prop} {exact : Bool} {o o' : Outcome}

theorem boolean (b : Bool) : Agrees legible exact (.boolean b) (.boolean b) := .value (.boolean b)

theorem ofExcept {x y : Except EvalError Value} (h : ResultsAgree (Value.Agrees legible exact) x y) :
    Agrees legible exact (.ofExcept x) (.ofExcept y) := by
  cases h with
  | ok agree => exact .value agree
  | error e e' => exact .error e e'

theorem isTrue_eq (h : o.Agrees legible exact o') : o.isTrue = o'.isTrue := by
  cases h with
  | value agree => cases agree <;> rfl
  | _ => rfl

theorem value?_rel (h : o.Agrees legible exact o') :
    Option.Rel (Value.Agrees legible exact) o.value? o'.value? := by
  cases h with
  | value agree => exact .some agree
  | _ => exact .none

variable (f : Builtin)

theorem truth (h : o.Agrees legible exact o') : ResultsAgree Eq (o.truth f) (o'.truth f) := by
  cases h with
  | value agree => cases agree <;> first | exact .ok rfl | exact .error _ _
  | _ => exact .error _ _

theorem operand (h : o.Agrees legible exact o') :
    ResultsAgree (Value.Agrees legible exact) (o.operand f) (o'.operand f) := by
  cases h with
  | value agree => exact .ok agree
  | _ => exact .error _ _

theorem string (h : o.Agrees legible exact o') : ResultsAgree Eq (o.string f) (o'.string f) := by
  refine (h.operand f).bind fun v w agree => ?_
  cases agree <;> first | exact .ok rfl | exact .error _ _

theorem array (h : o.Agrees legible exact o') :
    ResultsAgree (List.Forall₂ (Value.Agrees legible exact)) (o.array f) (o'.array f) := by
  refine (h.operand f).bind fun v w agree => ?_
  cases agree <;> first | exact .ok ‹_› | exact .error _ _

theorem entries (h : o.Agrees legible exact o') :
    ResultsAgree (Entries.Agree (Value.Agrees legible exact)) (o.entries f) (o'.entries f) := by
  refine (h.operand f).bind fun v w agree => ?_
  cases agree with
  | map left right related => exact .ok ⟨left, right, related⟩
  | vector components => exact .ok (vectorEntries_agree components)
  | _ => exact .error _ _

theorem vector (h : o.Agrees legible exact o') :
    ResultsAgree (List.Forall₂ (Double.Agrees exact)) (o.vector f) (o'.vector f) := by
  refine (h.operand f).bind fun v w agree => ?_
  cases agree <;> first | exact .ok ‹_› | exact .error _ _

theorem components (h : o.Agrees legible true o') : ResultsAgree Eq (o.vector f) (o'.vector f) := by
  have read := h.vector f
  generalize o.vector f = x, o'.vector f = y at read
  cases read with
  | error => exact .error _ _
  | ok agree => exact .ok (Double.eq_of_agrees agree)

theorem timestamp (h : o.Agrees legible exact o') : ResultsAgree Eq (o.timestamp f) (o'.timestamp f) := by
  refine (h.operand f).bind fun v w agree => ?_
  cases agree <;> first | exact .ok rfl | exact .error _ _

theorem reference (h : o.Agrees legible exact o') : ResultsAgree Eq (o.reference f) (o'.reference f) := by
  refine (h.operand f).bind fun v w agree => ?_
  cases agree <;> first | exact .ok rfl | exact .error _ _

theorem number (h : o.Agrees legible true o') : ResultsAgree Eq (o.number f) (o'.number f) := by
  refine (h.operand f).bind fun v w agree => ?_
  cases agree with
  | integer i => exact .ok rfl
  | double same => exact .ok same
  | integerDouble same => cases (show Number.integer _ = .double _ from same)
  | doubleInteger same => cases (show Number.double _ = .integer _ from same)
  | _ => exact .error _ _

theorem integer (h : o.Agrees legible true o') : ResultsAgree Eq (o.integer f) (o'.integer f) := by
  refine (h.operand f).bind fun v w agree => ?_
  cases agree with
  | integer i => exact .ok rfl
  | integerDouble same => cases (show Number.integer _ = .double _ from same)
  | doubleInteger same => cases (show Number.double _ = .integer _ from same)
  | _ => exact .error _ _

end Outcome.Agrees
end DocQuery
