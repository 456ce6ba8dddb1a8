import DocQuery.Proofs.Pipeline.Totals

/-! Pipelines that match make rows that agree of the same documents, and rows that agree are returned as the
same results. -/
namespace DocQuery

variable {legible : DocumentKey → Prop} {before after : Bool} {rows rows' : List Row}

/-- The steps list their assignments in one order, or the first one can be listed in any. -/
def Step.Listed (legible : DocumentKey → Prop) (s t : Step) : Prop :=
  s.listing = t.listing ∨ s.AliasesApart ∧ (s.isGrouping → Readable legible)

theorem groups_paired {gs hs : List Assignment} (matched : AssignmentsMatch legible gs hs)
    (settled : assignmentsSettled before after gs hs)
    (listed : gs.map (·.text) = hs.map (·.text) ∨
      (gs.Pairwise fun a b => a.path.Apart b.path) ∧ Readable legible) :
    GroupsPaired legible before after gs hs := by
  refine ⟨assignments_paired matched settled (listed.imp id And.left), ?_⟩
  refine listed.imp (fun listed => ?_) And.right
  exact forall₂_of_inTextOrder listed (forall₂_and_zip matched settled)

theorem Step.run_agrees (rules : RegexRules) {s t : Step} (h : RowsAgree legible before rows rows')
    (matched : s.Matches legible t) (settled : s.settled before after t) (listed : s.Listed legible t) :
    RowsAgree legible after (s.run rules rows).value (t.run rules rows').value := by
  cases matched with
  | filter condition =>
    rw [Step.settled, Bool.and_eq_true] at settled
    exact (filterRows_agree rules h condition settled.1).relax settled.2
  | sort keys =>
    rw [Step.settled, Bool.and_eq_true] at settled
    exact (sortRows_agree rules h keys settled.1).relax settled.2
  | limit n => exact RowsAgree.relax (List.forall₂_take n h) settled
  | offset n => exact RowsAgree.relax (List.forall₂_drop n h) settled
  | addFields fields =>
    rw [Step.settled, Bool.and_eq_true] at settled
    have order := listed.imp List.singleton_inj.mp And.left
    exact addFields_agree rules h (assignments_paired fields settled.1 order) settled.2
  | select fields =>
    have order := listed.imp List.singleton_inj.mp And.left
    exact selectFields_agree rules h (assignments_paired fields settled order)
  | distinct groups =>
    have order := listed.imp List.singleton_inj.mp fun apart => And.intro apart.1 (apart.2 rfl)
    exact distinctRows_agree rules h (groups_paired groups settled order)
  | aggregate groups accumulators =>
    rw [Step.settled, Bool.and_eq_true] at settled
    have order : (_ ∧ _) ∨ (_ ∧ _) ∧ _ := listed.imp_left fun same => by simpa [listing] using same
    have first := groups_paired groups settled.1 (order.imp And.left fun apart => ⟨apart.1.1, apart.2 rfl⟩)
    have second := accumulators_paired accumulators settled.2 (order.imp And.right fun apart => apart.1.2)
    exact aggregateRows_agree rules h first second
  | findNearest query =>
    rw [Step.settled, Bool.and_eq_true, Bool.and_eq_true, beq_iff_eq] at settled
    exact (nearestRows_agree rules h query settled.1.1 settled.1.2).relax settled.2

theorem runSteps_agree (rules : RegexRules) {ss ts : List Step} (h : RowsAgree legible before rows rows')
    (matched : List.Forall₂ (Step.Matches legible) ss ts) (settled : stepsSettled before ss ts)
    (listed : List.Forall₂ (Step.Listed legible) ss ts) :
    RowsAgree legible false (runSteps rules rows ss).rows (runSteps rules rows' ts).rows := by
  induction matched generalizing before rows rows' with
  | nil => exact h.relax (by simp)
  | @cons s t _ _ step _ ih =>
    cases listed with
    | cons first rest =>
      rw [stepsSettled, Bool.or_eq_true, Bool.and_eq_true, Bool.and_eq_true] at settled
      -- the rows between the two steps agree exactly or not, whichever carries the steps after them
      rcases settled with ⟨now, later⟩ | ⟨now, later⟩
      · exact ih (s.run_agrees rules h step now first) later rest
      · exact ih (s.run_agrees rules h step now first) later rest

/-- Sources that list the same documents, in whatever order. -/
inductive Source.Matches : Source → Source → Prop
  | same (s : Source) : Matches s s
  | documents {ks ls : List DocumentKey} : ks.Perm ls → Matches (.documents ks) (.documents ls)

theorem Source.Matches.rows_eq {s t : Source} (h : s.Matches t) (docs : List Document) :
    s.rows docs = t.rows docs := by
  cases h with
  | same => rfl
  | @documents ks ls perm =>
    have chosen (doc : Document) : (Source.documents ks).chooses doc.key = (Source.documents ls).chooses doc.key :=
      perm.contains_eq
    simp only [Source.rows, chosen]

/-- Documents as they are read: no map has a key twice. Their own keys and those that they refer to are of
the kind that texts are known to tell apart. -/
structure Document.Clear (legible : DocumentKey → Prop) (doc : Document) : Prop where
  distinct : (Value.map doc.fields).distinctKeys
  key : legible doc.key
  references : ∀ key ∈ (Value.map doc.fields).references, legible key

theorem Document.toRow_agrees {doc : Document} (clear : doc.Clear legible) :
    doc.toRow.Agrees legible true doc.toRow where
  key := rfl
  clear := fun _ same => Option.some.inj same ▸ clear.key
  updateTime := rfl
  createTime := rfl
  fields := .refl clear.distinct clear.references

/-- Rows of one identity whose fields have one canonical text. -/
structure Row.SameResult (a b : Row) : Prop where
  key : a.key = b.key
  updateTime : a.updateTime = b.updateTime
  createTime : a.createTime = b.createTime
  fields : (Value.map a.fields).canonical = (Value.map b.fields).canonical

theorem Row.Agrees.sameResult {exact : Bool} {a b : Row} (h : a.Agrees legible exact b) : a.SameResult b where
  key := h.key
  updateTime := h.updateTime
  createTime := h.createTime
  fields := (Value.Agrees.map_iff.mpr ⟨_, rfl, h.fields⟩).canonical_eq

theorem Pipeline.execute_agrees (rules : RegexRules) {p q : Pipeline} (source : p.source.Matches q.source)
    (steps : List.Forall₂ (Step.Matches legible) p.steps q.steps)
    (listed : List.Forall₂ (Step.Listed legible) p.steps q.steps)
    (settled : stepsSettled true p.steps q.steps) {docs : List Document}
    (clear : ∀ doc ∈ docs, doc.Clear legible) :
    List.Forall₂ Row.SameResult (p.execute rules docs).rows (q.execute rules docs).rows := by
  have start : RowsAgree legible true (p.source.rows docs) (p.source.rows docs) := by
    refine List.forall₂_same.mpr fun row member => ?_
    obtain ⟨doc, chosen, rfl⟩ := List.mem_map.mp member
    exact doc.toRow_agrees (clear doc (List.mem_filter.mp chosen).1)
  have done := runSteps_agree rules start steps settled listed
  rw [execute, execute, ← source.rows_eq]
  exact done.imp fun _ _ row => row.sameResult

end DocQuery
