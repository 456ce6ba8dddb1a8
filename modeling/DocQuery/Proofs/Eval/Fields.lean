import DocQuery.Proofs.Eval.Evaluate

/-! The fields that an expression reads. Its outcome depends on nothing else of a row. -/
namespace DocQuery

mutual

/-- The paths of the fields in an expression. -/
def Expr.paths : Expr → List FieldPath
  | .field path => [path]
  | .constant _ => []
  | .call _ args => argsPaths args
  | .condition _ args _ => argsPaths args
  | .list items => argsPaths items

def argsPaths : List Expr → List FieldPath
  | [] => []
  | e :: es => e.paths ++ argsPaths es

end

theorem mem_argsPaths {path : FieldPath} {args : List Expr} :
    path ∈ argsPaths args ↔ ∃ e ∈ args, path ∈ e.paths := by
  induction args with
  | nil => simp [argsPaths]
  | cons e es ih => simp [argsPaths, ih]

theorem evaluate_congr (rules : RegexRules) {a b : Row} {e : Expr}
    (same : ∀ path ∈ e.paths, a.lookup path = b.lookup path) : evaluate rules a e = evaluate rules b e := by
  have operands {args : List Expr} (ih : ∀ e ∈ args, (∀ path ∈ e.paths, a.lookup path = b.lookup path) →
      evaluate rules a e = evaluate rules b e) (same : ∀ path ∈ argsPaths args, a.lookup path = b.lookup path) :
      evaluateAll rules a args = evaluateAll rules b args := by
    rw [evaluateAll_eq_map, evaluateAll_eq_map]
    exact List.map_congr_left fun e he => ih e he fun path hp => same path (mem_argsPaths.mpr ⟨e, he, hp⟩)
  induction e with
  | field path => rw [evaluate, evaluate, Row.field, Row.field, same path (List.mem_singleton_self path)]
  | constant v => rw [evaluate, evaluate]
  | call f args ih => rw [evaluate, evaluate, operands ih same]
  | condition f args _ ih => rw [evaluate, evaluate, operands ih same]
  | list items ih => rw [evaluate, evaluate, operands ih same]

end DocQuery
