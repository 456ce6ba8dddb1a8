import DocQuery.Pipeline.Canonical
import DocQuery.Pipeline.Execute
import DocQuery.Proofs.Eval.Evaluate
import DocQuery.Proofs.Sorting

/-! When the steps of two pipelines match, and when what they leave open makes no difference: the order
in which assignments are listed, and the spelling of constants. -/
namespace DocQuery

/-- Items in the order of their texts. -/
def inTextOrder (text : α → String) (items : List α) : List α :=
  items.mergeSort fun a b => text a ≤ text b

theorem inTextOrder_perm (text : α → String) (items : List α) : (inTextOrder text items).Perm items :=
  List.mergeSort_perm _ _

theorem sortTexts_map (text : α → String) (items : List α) :
    sortTexts (items.map text) = (inTextOrder text items).map text := by
  refine (List.map_mergeSort ?_).symm
  intros
  rfl

theorem inTextOrder_pair (text : α → String) (a b : α) :
    inTextOrder text [a, b] = if text a ≤ text b then [a, b] else [b, a] := by
  simp [inTextOrder, List.mergeSort, List.MergeSort.Internal.splitInTwo, List.merge]

theorem sortTexts_perm {ss ts : List String} (h : ss.Perm ts) : sortTexts ss = sortTexts ts := by
  refine List.Perm.eq_of_pairwise (fun _ _ _ _ => String.le_antisymm) (pairwise_mergeSort_texts id ss)
    (pairwise_mergeSort_texts id ts) ?_
  exact (List.mergeSort_perm ss _).trans (h.trans (List.mergeSort_perm ts _).symm)

/-- Lists paired off as listed or, where no path leads through another, in any order. -/
def Paired (path : α → FieldPath) (R : α → α → Prop) (as bs : List α) : Prop :=
  ∃ cs, List.Forall₂ R as cs ∧
    (cs = bs ∨ as.Pairwise (fun a b => (path a).Apart (path b)) ∧ cs.Perm bs)

theorem forall₂_of_inTextOrder {text : α → String} {R : α → α → Prop} {as bs : List α}
    (listed : as.map text = bs.map text)
    (h : List.Forall₂ R (inTextOrder text as) (inTextOrder text bs)) : List.Forall₂ R as bs := by
  have same : List.Forall₂ (fun a b => text a = text b) as bs := by
    simpa only [← List.forall₂_eq_eq_eq, forall₂_map_map] using listed
  obtain ⟨pairs, rfl, rfl, texts⟩ := forall₂_iff_pairs.mp same
  let both := pairs.mergeSort fun p q => text p.1 ≤ text q.1
  have left : both.map (·.1) = inTextOrder text (pairs.map (·.1)) :=
    List.map_mergeSort fun _ _ _ _ => rfl
  have right : both.map (·.2) = inTextOrder text (pairs.map (·.2)) :=
    List.map_mergeSort fun p hp q hq => by rw [texts p hp, texts q hq]
  rw [← left, ← right, forall₂_map_map, List.forall₂_same] at h
  exact forall₂_iff_pairs.mpr ⟨pairs, rfl, rfl, fun p hp => h p (List.mem_mergeSort.mpr hp)⟩

theorem paired_of_inTextOrder {text : α → String} {path : α → FieldPath} {R : α → α → Prop} {as bs : List α}
    (order : as.map text = bs.map text ∨ as.Pairwise fun a b => (path a).Apart (path b))
    (h : List.Forall₂ R (inTextOrder text as) (inTextOrder text bs)) : Paired path R as bs := by
  rcases order with listed | apart
  · exact ⟨bs, forall₂_of_inTextOrder listed h, .inl rfl⟩
  · obtain ⟨cs, related, perm⟩ := List.perm_comp_forall₂ (inTextOrder_perm text as).symm h
    exact ⟨cs, related, .inr ⟨apart, perm.trans (inTextOrder_perm text bs)⟩⟩

/-- The text of one assignment in the list of a stage. -/
def assignmentText (pair : FieldPath × String) : String := pair.1.text ++ "=" ++ pair.2

def Assignment.text (a : Assignment) : String := assignmentText a.canonicalPair

def Accumulator.text (a : Accumulator) : String := assignmentText a.canonicalPair

def Assignment.Matches (legible : DocumentKey → Prop) (a b : Assignment) : Prop :=
  a.path = b.path ∧ a.expr.Matches legible b.expr

def Accumulator.Matches (legible : DocumentKey → Prop) (a b : Accumulator) : Prop :=
  a.path = b.path ∧ a.kind = b.kind ∧ List.Forall₂ (Expr.Matches legible) a.args b.args

def SortKey.Matches (legible : DocumentKey → Prop) (k l : SortKey) : Prop :=
  k.expr.Matches legible l.expr ∧ k.direction = l.direction

def AssignmentsMatch (legible : DocumentKey → Prop) (as bs : List Assignment) : Prop :=
  List.Forall₂ (Assignment.Matches legible) (inTextOrder Assignment.text as)
    (inTextOrder Assignment.text bs)

def AccumulatorsMatch (legible : DocumentKey → Prop) (as bs : List Accumulator) : Prop :=
  List.Forall₂ (Accumulator.Matches legible) (inTextOrder Accumulator.text as)
    (inTextOrder Accumulator.text bs)

structure NearestQuery.Matches (legible : DocumentKey → Prop) (q r : NearestQuery) : Prop where
  field : q.field.Matches legible r.field
  target : List.Forall₂ (Double.Agrees false) q.target r.target
  measure : q.measure = r.measure
  limit : q.limit = r.limit
  distanceField : q.distanceField = r.distanceField

/-- Steps that differ in the order of assignments and in the spelling of numbers only. -/
inductive Step.Matches (legible : DocumentKey → Prop) : Step → Step → Prop
  | filter {c d : Condition} : c.toExpr.Matches legible d.toExpr → Matches legible (.filter c) (.filter d)
  | sort {ks ls : List SortKey} : List.Forall₂ (SortKey.Matches legible) ks ls →
      Matches legible (.sort ks) (.sort ls)
  | limit (n : Nat) : Matches legible (.limit n) (.limit n)
  | offset (n : Nat) : Matches legible (.offset n) (.offset n)
  | addFields {as bs : List Assignment} : AssignmentsMatch legible as bs →
      Matches legible (.addFields as) (.addFields bs)
  | select {as bs : List Assignment} : AssignmentsMatch legible as bs →
      Matches legible (.select as) (.select bs)
  | distinct {gs hs : List Assignment} : AssignmentsMatch legible gs hs →
      Matches legible (.distinct gs) (.distinct hs)
  | aggregate {gs hs : List Assignment} {as bs : List Accumulator} : AssignmentsMatch legible gs hs →
      AccumulatorsMatch legible as bs → Matches legible (.aggregate gs as) (.aggregate hs bs)
  | findNearest {q r : NearestQuery} : q.Matches legible r → Matches legible (.findNearest q) (.findNearest r)

/-- Whether the arguments of a total have to agree exactly for its results to agree. -/
def Aggregation.needs (exact : Bool) : Aggregation → Bool
  | sum | average => true
  | minimum | maximum => exact
  | _ => false

def Assignment.settled (before after : Bool) (a b : Assignment) : Bool :=
  a.expr.settled before after b.expr

def Accumulator.settled (before after : Bool) (a b : Accumulator) : Bool :=
  match a.args, b.args with
  | x :: _, y :: _ => x.settled before (a.kind.needs after) y
  | _, _ => true

/-- Assignments are paired in the order of their texts. -/
def assignmentsSettled (before after : Bool) (as bs : List Assignment) : Bool :=
  ((inTextOrder Assignment.text as).zip (inTextOrder Assignment.text bs)).all fun (a, b) =>
    a.settled before after b

def accumulatorsSettled (before after : Bool) (as bs : List Accumulator) : Bool :=
  ((inTextOrder Accumulator.text as).zip (inTextOrder Accumulator.text bs)).all fun (a, b) =>
    a.settled before after b

/-- Whether matching steps make rows that agree, exactly or not, of rows that agree, exactly or not.
Conditions, keys of sorting and groups cannot tell spellings apart; searches see them all. -/
def Step.settled (before after : Bool) : Step → Step → Bool
  | filter c, filter d => c.toExpr.settled before false d.toExpr && (before || !after)
  | sort ks, sort ls => (ks.zip ls).all (fun (k, l) => k.expr.settled before false l.expr) && (before || !after)
  | addFields as, addFields bs => assignmentsSettled before after as bs && (before || !after)
  | select as, select bs => assignmentsSettled before after as bs
  | distinct gs, distinct hs => assignmentsSettled before after gs hs
  | aggregate gs as, aggregate hs bs =>
    assignmentsSettled before after gs hs && accumulatorsSettled before after as bs
  | findNearest q, findNearest r =>
    q.field.settled before true r.field && q.target == r.target && (before || !after)
  | _, _ => before || !after

/-- Whether the rows of one step after the other can be followed up to the end. -/
def stepsSettled (before : Bool) : List Step → List Step → Bool
  | s :: ss, t :: ts =>
    s.settled before true t && stepsSettled true ss ts ||
      s.settled before false t && stepsSettled false ss ts
  | _, _ => true

/-- The texts of assignments as a step lists them. -/
def Step.listing : Step → List (List String)
  | addFields as | select as | distinct as => [as.map (·.text)]
  | aggregate gs as => [gs.map (·.text), as.map (·.text)]
  | _ => []

/-- No path that the step writes leads to or through another one of the same list. -/
def Step.AliasesApart : Step → Prop
  | addFields as | select as | distinct as => as.Pairwise fun a b => a.path.Apart b.path
  | aggregate gs as =>
    (gs.Pairwise fun a b => a.path.Apart b.path) ∧ as.Pairwise fun a b => a.path.Apart b.path
  | _ => True

/-- Whether the step tells rows apart by lists of values. -/
def Step.isGrouping : Step → Bool
  | distinct _ | aggregate _ _ => true
  | _ => false

end DocQuery
