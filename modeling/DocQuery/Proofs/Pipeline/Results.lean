import DocQuery.Proofs.Pipeline.Reading

/-! When the canonical text of a pipeline can stand for its results. It forgets how numbers are spelled and in
which order assignments are listed, and it leaves paths unquoted; each of these makes a difference somewhere. -/
namespace DocQuery

instance : DecidableRel FieldPath.Apart := fun _ _ => inferInstanceAs (Decidable (_ ∧ _))

instance : DecidablePred Step.AliasesApart
  | .addFields as | .select as | .distinct as =>
    inferInstanceAs (Decidable (as.Pairwise fun a b => a.path.Apart b.path))
  | .aggregate gs as =>
    inferInstanceAs (Decidable ((gs.Pairwise fun a b => a.path.Apart b.path) ∧
      as.Pairwise fun a b => a.path.Apart b.path))
  | .filter _ | .sort _ | .limit _ | .offset _ | .findNearest _ => .isTrue trivial

/-- The texts of the keys in a document are told apart inside the texts of references. -/
def Document.legible (doc : Document) : Bool :=
  doc.key.legible [')'] && (Value.map doc.fields).references.all (DocumentKey.legible [')'])

namespace Pipeline

/-- No step depends on the order of its assignments, where the pipelines differ in it. -/
def ordersAgree (p q : Pipeline) : Prop :=
  ∀ pair ∈ p.steps.zip q.steps, pair.1.listing = pair.2.listing ∨ pair.1.AliasesApart

instance (p q : Pipeline) : Decidable (p.ordersAgree q) :=
  inferInstanceAs (Decidable (∀ pair ∈ p.steps.zip q.steps, _ ∨ _))

/-- Some step groups rows by the same keys in another order. -/
def regroups (p q : Pipeline) : Bool :=
  (p.steps.zip q.steps).any fun (s, t) => s.isGrouping && s.listing != t.listing

theorem steps_listed {p q : Pipeline} {legible : DocumentKey → Prop} (size : p.steps.length = q.steps.length)
    (order : p.ordersAgree q) (readable : p.regroups q → Readable legible) :
    List.Forall₂ (Step.Listed legible) p.steps q.steps := by
  refine List.forall₂_iff_zip.mpr ⟨size, fun {s t} member => ?_⟩
  by_cases listed : s.listing = t.listing
  · exact .inl listed
  · refine .inr ⟨(order _ member).resolve_left listed, fun grouping => readable ?_⟩
    exact List.any_eq_true.mpr ⟨_, member, by simp [grouping, listed]⟩

/-- Pipelines with one canonical text have the same results on all documents, if the text determines them up
to order and spelling, if no function that sees spellings meets a difference of spelling, and if no
assignment writes to a path that leads through another one of the step. -/
theorem results_of_sameCanonical (rules : RegexRules) {p q : Pipeline} (same : p.sameCanonical q) (hp : p.legible)
    (hq : q.legible) (settled : stepsSettled true p.steps q.steps) (order : p.ordersAgree q)
    {docs : List Document} (distinct : ∀ doc ∈ docs, (Value.map doc.fields).distinctKeys)
    (clear : p.regroups q → ∀ doc ∈ docs, doc.legible) :
    List.Forall₂ Row.SameResult (p.execute rules docs).rows (q.execute rules docs).rows := by
  have results {legible : DocumentKey → Prop} (admits : ∀ key : DocumentKey, key.legible [')'] → legible key)
      (readable : p.regroups q → Readable legible) (clear : ∀ doc ∈ docs, doc.Clear legible) :
      List.Forall₂ Row.SameResult (p.execute rules docs).rows (q.execute rules docs).rows := by
    obtain ⟨source, steps⟩ := matches_of_sameCanonical admits hp hq same
    exact execute_agrees rules source steps (steps_listed steps.length_eq order readable) settled clear
  cases regroups : p.regroups q with
  | true =>
    refine results (fun _ => id) (fun _ => DocumentKey.readable_legible) fun doc hd => ?_
    have keys := clear regroups doc hd
    rw [Document.legible, Bool.and_eq_true, List.all_eq_true] at keys
    exact ⟨distinct doc hd, keys.1, keys.2⟩
  | false =>
    -- the texts of references tell no groups apart, so that any keys will do
    have every : ∀ doc ∈ docs, doc.Clear fun _ => True :=
      fun doc hd => ⟨distinct doc hd, trivial, fun _ _ => trivial⟩
    exact results (fun _ _ => trivial) (fun grouped => absurd grouped (by simp [regroups])) every

/-- A bound spelled as an integer and as a double, and two aliases in both orders. -/
theorem results_of_respelled_bound :
    let half : Assignment :=
      ⟨⟨["half"]⟩, .call (.arithmetic .divide) [.field ⟨["price"]⟩, .constant (.integer 2)]⟩
    let name : Assignment := .ofField ⟨["name"]⟩
    let above (bound : Value) : Step :=
      .filter ⟨.relation .gt, [.field ⟨["price"]⟩, .constant bound], rfl⟩
    let p : Pipeline := ⟨.database, [above (.integer 1), .select [half, name]], rfl,
      by simp [above, Step.fault?]⟩
    let q : Pipeline := ⟨.database, [above (.double .one), .select [name, half]], rfl,
      by simp [above, Step.fault?]⟩
    let doc : Document := ⟨⟨⟨["shop", "a"]⟩, by decide⟩, ⟨0, 0, by decide, by decide, by decide⟩, none,
       [("price", .integer 5), ("name", .string "pen")]⟩
    p.sameCanonical q ∧ p.legible ∧ q.legible ∧ stepsSettled true p.steps q.steps ∧ p.ordersAgree q ∧
      (Value.map doc.fields).distinctKeys ∧
      List.Forall₂ Row.SameResult (p.execute 100 [doc]).rows (q.execute 100 [doc]).rows := by
  intro half name above p q doc
  have hp : p.legible := by decide +kernel
  have hq : q.legible := by decide +kernel
  have bound : (above (.integer 1)).Matches (fun _ => True) (above (.double .one)) := by
    have tie : Number.order (.integer 1) (.double .one) = .eq := by decide +kernel
    exact .filter (.application rfl rfl (.cons (.field _) (.cons (.constant (.integerDouble tie)) .nil)))
  have sorted : inTextOrder Assignment.text [half, name] = [half, name] ∧
      inTextOrder Assignment.text [name, half] = [half, name] := by
    rw [inTextOrder_pair, inTextOrder_pair, if_pos (by decide +kernel), if_neg (by decide +kernel)]
    exact ⟨rfl, rfl⟩
  have fields : (Step.select [half, name]).Matches (fun _ => True) (.select [name, half]) := by
    refine .select ?_
    rw [AssignmentsMatch, sorted.1, sorted.2]
    have division : half.expr.Matches (fun _ => True) half.expr :=
      .application rfl rfl (.cons (.field _) (.cons (.constant (.integer 2)) .nil))
    exact .cons ⟨rfl, division⟩ (.cons ⟨rfl, .field _⟩ .nil)
  have same : p.sameCanonical q :=
    (sameCanonical_iff (fun _ _ => trivial) hp hq).mpr ⟨.same _, .cons bound (.cons fields .nil)⟩
  have settled : stepsSettled true p.steps q.steps := by
    have select : (Step.select [half, name]).settled true true (.select [name, half]) := by
      rw [Step.settled, assignmentsSettled, sorted.1, sorted.2]
      decide +kernel
    simp only [stepsSettled, select, p, q]
    decide +kernel
  have order : p.ordersAgree q := by
    decide +kernel
  have distinct : (Value.map doc.fields).distinctKeys := by decide +kernel
  refine ⟨same, hp, hq, settled, order, distinct, ?_⟩
  exact results_of_sameCanonical 100 same hp hq settled order (by simpa using distinct)
    fun grouped => absurd grouped (by decide +kernel)

/-- Without these conditions pipelines with one canonical text can differ in their results: in what comes of dividing a
number in another spelling, in which of two assignments to one field is the last, and in what a name spells. -/
theorem results_differ_despite_sameCanonical :
    let selects (assignments : List Assignment) : Pipeline :=
      ⟨.database, [.select assignments], rfl, by simp [Step.fault?]⟩
    let half (one : Value) : Assignment :=
      ⟨⟨["half"]⟩, .call (.arithmetic .divide) [.constant one, .constant (.integer 2)]⟩
    let outer : Assignment := ⟨⟨["a"]⟩, .constant (.integer 1)⟩
    let inner : Assignment := ⟨⟨["a", "b"]⟩, .constant (.integer 2)⟩
    let named : Pipeline := ⟨.collectionGroup "shop)|offset(1", [], rfl, by simp⟩
    let skips : Pipeline := ⟨.collectionGroup "shop", [.offset 1], rfl, by simp [Step.fault?]⟩
    let doc (id : String) : Document :=
      ⟨⟨⟨["shop", id]⟩, by simp [ResourcePath.length]⟩, ⟨0, 0, by decide, by decide, by decide⟩, none, []⟩
    let rows (p : Pipeline) : List Row := (p.execute 100 [doc "a", doc "b"]).rows
    let differ (p q : Pipeline) : Prop := p.sameCanonical q ∧ ¬ List.Forall₂ Row.SameResult (rows p) (rows q)
    differ (selects [half (.integer 1)]) (selects [half (.double .one)]) ∧
      differ (selects [outer, inner]) (selects [inner, outer]) ∧ differ named skips := by
  intro selects half outer inner named skips doc rows differ
  let texts (p : Pipeline) : List String := (rows p).map fun row => (Value.map row.fields).canonical
  have differ_of {p q : Pipeline} (same : p.sameCanonical q) (results : texts p ≠ texts q) : differ p q :=
    ⟨same, fun agree => results (map_eq_of_forall₂ agree fun _ _ _ row => row.fields)⟩
  have swapped : (selects [outer, inner]).sameCanonical (selects [inner, outer]) := by
    have listed : canonicalFields [outer, inner] = canonicalFields [inner, outer] :=
      congrArg (",".intercalate ·) (sortTexts_perm (.swap _ _ _))
    rw [sameCanonical, beq_iff_eq]
    exact congrArg (fun fields => "|".intercalate ["database()", "select" ++ "(" ++ fields ++ ")"]) listed
  refine ⟨differ_of ?_ ?_, differ_of swapped ?_, differ_of ?_ ?_⟩
  all_goals decide +kernel

end Pipeline
end DocQuery
