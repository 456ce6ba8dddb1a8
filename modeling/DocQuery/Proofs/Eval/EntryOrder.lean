import DocQuery.Proofs.Eval.Evaluate
import DocQuery.Proofs.Eval.Faces

/-! Evaluating an expression on two rows that are equal up to the order of map entries, at every depth: the outcomes
are so too, and errors are equal in full. -/
namespace DocQuery

mutual

/-- Whether no map in a constant holds a key twice. -/
def Expr.distinctKeys : Expr → Bool
  | .field _ => true
  | .constant v => v.distinctKeys
  | .call _ args => argsDistinct args
  | .condition _ args _ => argsDistinct args
  | .list items => argsDistinct items

def argsDistinct : List Expr → Bool
  | [] => true
  | e :: es => e.distinctKeys && argsDistinct es

end

theorem argsDistinct_iff {args : List Expr} : argsDistinct args ↔ ∀ e ∈ args, e.distinctKeys := by
  induction args with
  | nil => simp [argsDistinct]
  | cons e es ih => simp [argsDistinct, ih]

namespace Expr

theorem matches_self {e : Expr} (distinct : e.distinctKeys) : e.Matches (fun _ => True) e := by
  have operands {args : List Expr} (ih : ∀ e ∈ args, e.distinctKeys → e.Matches (fun _ => True) e)
      (distinct : argsDistinct args) : List.Forall₂ (Matches fun _ => True) args args :=
    List.forall₂_same.mpr fun e he => ih e he (argsDistinct_iff.mp distinct e he)
  induction e with
  | field path => exact .field path
  | constant v => exact .constant (.refl distinct fun _ _ => trivial)
  | call f args ih => exact .application rfl rfl (operands ih distinct)
  | condition f args _ ih => exact .application rfl rfl (operands ih distinct)
  | list items ih => exact .list (operands ih distinct)

theorem argsSettled_self {exact : Bool} {args : List Expr} (each : ∀ e ∈ args, e.settled true exact e) :
    argsSettled true exact args args := by
  induction args with
  | nil => rfl
  | cons e es ih =>
    rw [List.forall_mem_cons] at each
    rw [argsSettled, each.1, ih each.2]
    rfl

theorem settled_self {e : Expr} (distinct : e.distinctKeys) (exact : Bool) : e.settled true exact e := by
  have operands {args : List Expr} (ih : ∀ e ∈ args, e.distinctKeys → ∀ exact, e.settled true exact e) (exact : Bool)
      (distinct : argsDistinct args) : argsSettled true exact args args :=
    argsSettled_self fun e he => ih e he (argsDistinct_iff.mp distinct e he) exact
  induction e generalizing exact with
  | field path => rfl
  | constant v =>
    have alike : v.Agrees (fun _ => True) true v := .refl distinct fun _ _ => trivial
    rw [settled, alike.same_of_exact, Bool.or_true]
  | call f args ih => exact operands ih _ distinct
  | condition f args _ ih => exact operands ih _ distinct
  | list items ih => exact operands ih _ distinct

end Expr

theorem Value.Agrees.face_eq {legible : DocumentKey → Prop} {v w : Value} (h : v.Agrees legible true w) :
    v.face = w.face := by
  cases h with
  | array items => simp only [face, List.map_const', items.length_eq]
  | vector components => exact congrArg Value.vector (Double.eq_of_agrees components)
  | double same => exact congrArg Number.toValue same
  | integerDouble same => exact congrArg Number.toValue same
  | doubleInteger same => exact congrArg Number.toValue same
  | @geo a b latitude longitude =>
    obtain ⟨latitude', longitude'⟩ := a
    cases (latitude : Number.double _ = .double _)
    cases (longitude : Number.double _ = .double _)
    rfl
  | _ => rfl

/-- Outcomes that are equal up to the order of map entries: both absent, one error, or values that are the same. -/
inductive Outcome.Same : Outcome → Outcome → Prop
  | value {v w : Value} : v.same w → Same (.value v) (.value w)
  | absent : Same .absent .absent
  | error (e : EvalError) : Same (.error e) (.error e)

namespace Outcome.Agrees

variable {legible : DocumentKey → Prop} {o o' : Outcome}

theorem face_eq (h : o.Agrees legible true o') (fault : o.error? = o'.error?) : o.face = o'.face := by
  cases h with
  | value hv => exact congrArg Outcome.value hv.face_eq
  | absent => rfl
  | error e e' => exact congrArg Outcome.error (Option.some.inj fault)

theorem same (h : o.Agrees legible true o') (fault : o.error? = o'.error?) : o.Same o' := by
  cases h with
  | value hv => exact .value hv.same_of_exact
  | absent => exact .absent
  | error e e' =>
    cases Option.some.inj fault
    exact .error e

end Outcome.Agrees

section Evaluation

variable {a b : Row}

theorem evaluate_agrees_self (rules : RegexRules) (h : a.Agrees (fun _ => True) true b) {e : Expr}
    (distinct : e.distinctKeys) : (evaluate rules a e).Agrees (fun _ => True) true (evaluate rules b e) :=
  evaluate_agrees rules h e e true (Expr.matches_self distinct) (Expr.settled_self distinct true)

theorem error?_evaluate (rules : RegexRules) (h : a.Agrees (fun _ => True) true b) {e : Expr}
    (distinct : e.distinctKeys) : (evaluate rules a e).error? = (evaluate rules b e).error? := by
  have faces {args : List Expr}
      (ih : ∀ e ∈ args, e.distinctKeys → (evaluate rules a e).error? = (evaluate rules b e).error?)
      (distinct : argsDistinct args) :
      (evaluateAll rules a args).map Outcome.face = (evaluateAll rules b args).map Outcome.face := by
    rw [argsDistinct_iff] at distinct
    rw [evaluateAll_eq_map, evaluateAll_eq_map, List.map_map, List.map_map]
    exact List.map_congr_left fun e he =>
      (evaluate_agrees_self rules h (distinct e he)).face_eq (ih e he (distinct e he))
  induction e with
  | field path =>
    have alike := evaluate_agrees_self rules h distinct
    rw [evaluate, evaluate, Row.field, Row.field] at alike ⊢
    cases a.lookup path <;> cases b.lookup path <;> rfl
  | constant v => rw [evaluate, evaluate]
  | call f args ih =>
    rw [evaluate, evaluate, ← f.error?_apply_face, faces ih distinct, f.error?_apply_face]
  | condition f args _ ih =>
    rw [evaluate, evaluate, ← f.error?_apply_face, faces ih distinct, f.error?_apply_face]
  | list items ih =>
    rw [evaluate, evaluate, error?_ofExcept, error?_ofExcept, fault?_map, fault?_map, ← fault?_collectItems_face,
      faces ih distinct, fault?_collectItems_face]

theorem evaluate_same (rules : RegexRules) (h : a.Agrees (fun _ => True) true b) {e : Expr}
    (distinct : e.distinctKeys) : (evaluate rules a e).Same (evaluate rules b e) :=
  (evaluate_agrees_self rules h distinct).same (error?_evaluate rules h distinct)

end Evaluation
end DocQuery
