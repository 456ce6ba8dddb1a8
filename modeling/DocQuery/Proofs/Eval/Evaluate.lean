import DocQuery.Eval.Evaluate
import DocQuery.Proofs.Document
import DocQuery.Proofs.Eval.Apply

/-! Evaluating expressions that match on rows that agree. How exactly the outcomes agree depends on where
differences of spelling in the rows and in the constants meet a function that sees them. -/
namespace DocQuery

@[elab_as_elim, induction_eliminator]
theorem Expr.members_induction {motive : Expr → Prop} (field : ∀ path, motive (.field path))
    (constant : ∀ v, motive (.constant v))
    (call : ∀ f args, (∀ e ∈ args, motive e) → motive (.call f args))
    (condition : ∀ f args h, (∀ e ∈ args, motive e) → motive (.condition f args h))
    (list : ∀ items, (∀ e ∈ items, motive e) → motive (.list items)) (e : Expr) : motive e := by
  refine @Expr.rec motive (fun args => ∀ e ∈ args, motive e) field constant call condition list ?_ ?_ e
  · simp
  · intro e es he hes
    simpa using ⟨he, hes⟩

namespace Expr

/-- The function of a call and its operands, whether or not the call is known to be boolean. -/
def application? : Expr → Option (Builtin × List Expr)
  | call f args => some (f, args)
  | condition f args _ => some (f, args)
  | _ => none

/-- The parts of an expression. -/
def operands : Expr → List Expr
  | call _ args => args
  | condition _ args _ => args
  | list items => items
  | _ => []

/-- Expressions that differ in the spelling of constants and in what is known of calls only. -/
inductive Matches (legible : DocumentKey → Prop) : Expr → Expr → Prop
  | field (path : FieldPath) : Matches legible (.field path) (.field path)
  | constant {v w : Value} : v.Agrees legible false w → Matches legible (.constant v) (.constant w)
  | application {e e' : Expr} {f : Builtin} {as bs : List Expr} : e.application? = some (f, as) →
      e'.application? = some (f, bs) → List.Forall₂ (Matches legible) as bs → Matches legible e e'
  | list {as bs : List Expr} : List.Forall₂ (Matches legible) as bs →
      Matches legible (.list as) (.list bs)

end Expr

mutual

/-- Whether matching expressions agree, exactly or not, on rows that agree, exactly or not: where exact
agreement is asked for, fields of such rows and constants have to supply it. -/
def Expr.settled (rows exact : Bool) : Expr → Expr → Bool
  | .field path, _ => rows || !exact || path.synthetic?.isSome
  | .constant v, .constant w => !exact || v.same w
  | .constant _, _ => true
  | .call f args, e => argsSettled rows (f.needs exact) args e.operands
  | .condition f args _, e => argsSettled rows (f.needs exact) args e.operands
  | .list items, e => argsSettled rows exact items e.operands

def argsSettled (rows exact : Bool) : List Expr → List Expr → Bool
  | a :: as, b :: bs => a.settled rows exact b && argsSettled rows exact as bs
  | _, _ => true

end

/-- Rows of one identity whose fields agree. -/
structure Row.Agrees (legible : DocumentKey → Prop) (exact : Bool) (a b : Row) : Prop where
  key : a.key = b.key
  clear : ∀ key ∈ a.key, legible key
  updateTime : a.updateTime = b.updateTime
  createTime : a.createTime = b.createTime
  fields : FieldsAgree legible exact a.fields b.fields

variable {legible : DocumentKey → Prop} {exact rows : Bool} {a b : Row}

theorem Row.Agrees.lookup_rel (h : a.Agrees legible rows b) (path : FieldPath)
    (enough : rows || !exact || path.synthetic?.isSome) :
    Option.Rel (Value.Agrees legible exact) (a.lookup path) (b.lookup path) := by
  unfold lookup
  cases synthetic : path.synthetic? with
  | none =>
    have grade : exact = true → rows = true := by
      rintro rfl
      simpa [synthetic] using enough
    have found := getField_rel h.fields path.segments
    generalize getField a.fields path.segments = x, getField b.fields path.segments = y at found
    cases found with
    | none => exact .none
    | some hv => exact .some (hv.relax (fun _ => id) grade)
  | some field =>
    have clear := h.clear
    rw [← h.key, ← h.updateTime, ← h.createTime]
    cases field with
    | key =>
      cases hk : a.key with
      | none => exact .none
      | some key => exact .some (.reference (clear key hk))
    | updateTime => cases a.updateTime <;> first | exact .none | exact .some (.timestamp _)
    | createTime => cases a.createTime <;> first | exact .none | exact .some (.timestamp _)

theorem evaluateAll_eq_map (rules : RegexRules) (row : Row) (args : List Expr) :
    evaluateAll rules row args = args.map (evaluate rules row) := by
  induction args with
  | nil => rfl
  | cons e es ih => rw [evaluateAll, ih, List.map_cons]

theorem evaluate_application {e : Expr} (h : e.application? = some (f, args)) (rules : RegexRules) (row : Row) :
    evaluate rules row e = f.apply rules (args.map (evaluate rules row)) := by
  cases e with
  | call | condition =>
    cases h
    rw [evaluate, evaluateAll_eq_map]
  | _ => contradiction

theorem settled_application {e e' : Expr} (h : e.application? = some (f, as))
    (h' : e'.application? = some (g, bs)) :
    e.settled rows exact e' = argsSettled rows (f.needs exact) as bs := by
  have operands : e'.operands = bs := by
    cases e' <;> first | contradiction | (cases h'; rfl)
  cases e <;> first | contradiction | (cases h; rw [Expr.settled, operands])

theorem collectItems_agree {args args' : List Outcome}
    (h : List.Forall₂ (Outcome.Agrees legible exact) args args') :
    ResultsAgree (List.Forall₂ (Value.Agrees legible exact)) (collectItems args) (collectItems args') := by
  induction h with
  | nil => exact .ok .nil
  | cons first _ ih =>
    cases first with
    | error | absent => exact .error _ _
    | value hv => exact ih.bind fun _ _ rest => .ok (.cons hv rest)

/-- What holds of expressions that match one: they have outcomes that agree. -/
def EvaluatesAlike (legible : DocumentKey → Prop) (rules : RegexRules) (a b : Row) (rows : Bool) (e : Expr) : Prop :=
  ∀ (e' : Expr) (exact : Bool), e.Matches legible e' → e.settled rows exact e' →
    (evaluate rules a e).Agrees legible exact (evaluate rules b e')

theorem evaluate_list_agrees {rules : RegexRules} {args args' : List Expr}
    (ih : ∀ e ∈ args, EvaluatesAlike legible rules a b rows e)
    (matched : List.Forall₂ (Expr.Matches legible) args args')
    (settled : argsSettled rows exact args args') :
    List.Forall₂ (Outcome.Agrees legible exact) (args.map (evaluate rules a))
      (args'.map (evaluate rules b)) := by
  induction matched with
  | nil => exact .nil
  | @cons e e' es es' first _ rest =>
    rw [argsSettled, Bool.and_eq_true] at settled
    refine .cons (ih e List.mem_cons_self e' exact first settled.1) (rest ?_ settled.2)
    exact fun e he => ih e (List.mem_cons_of_mem _ he)

theorem evaluate_agrees (rules : RegexRules) (h : a.Agrees legible rows b) (e : Expr) :
    EvaluatesAlike legible rules a b rows e := by
  have application {e : Expr} {f : Builtin} {args : List Expr} (he : e.application? = some (f, args))
      (ih : ∀ e ∈ args, EvaluatesAlike legible rules a b rows e) :
      EvaluatesAlike legible rules a b rows e := by
    intro e' exact matched settled
    cases matched with
    | application first second args =>
      cases he.symm.trans first
      rw [settled_application first second] at settled
      rw [evaluate_application first, evaluate_application second]
      exact Builtin.apply_agrees rules _ (evaluate_list_agrees ih args settled)
    | _ => contradiction
  induction e with
  | field path =>
    intro e' exact matched settled
    cases matched with
    | field =>
      rw [Expr.settled] at settled
      have found := h.lookup_rel path settled
      rw [evaluate, evaluate, Row.field, Row.field]
      generalize a.lookup path = x, b.lookup path = y at found
      cases found with
      | none => exact .absent
      | some hv => exact .value hv
    | application => contradiction
  | constant v =>
    intro e' exact matched settled
    cases matched with
    | constant agree =>
      rw [evaluate, evaluate]
      refine .value ?_
      cases exact with
      | false => exact agree
      | true => exact agree.of_same (by simpa [Expr.settled] using settled)
    | application => contradiction
  | call f args ih => exact application rfl ih
  | condition f args _ ih => exact application rfl ih
  | list items ih =>
    intro e' exact matched settled
    cases matched with
    | list items =>
      rw [Expr.settled, Expr.operands] at settled
      rw [evaluate, evaluate, evaluateAll_eq_map, evaluateAll_eq_map]
      refine .ofExcept ((collectItems_agree (evaluate_list_agrees ih items settled)).map ?_)
      exact fun _ _ items => .array items
    | application => contradiction

end DocQuery
