import Mathlib.Data.List.NodupEquivFin
import DocQuery.Proofs.Pipeline.Nearest
import DocQuery.Proofs.Pipeline.Partition

/-! Where rows come from. Steps other than aggregations take rows away and change their fields, and only sorts and
searches move them, so each row of a result is that of one document that the source chose. An aggregation makes rows
of no document at all, and no later step gives them an identity. -/
namespace DocQuery

/-- What makes a row that of a document. -/
structure Identity where
  key : Option DocumentKey
  updateTime : Option Timestamp
  createTime : Option Timestamp
  deriving DecidableEq

def Identity.anonymous : Identity := ⟨none, none, none⟩

def Row.identity (row : Row) : Identity := ⟨row.key, row.updateTime, row.createTime⟩

namespace Step

/-- Whether the step makes rows of groups of rows. -/
def isAggregate : Step → Bool
  | aggregate _ _ => true
  | _ => false

/-- Whether the step may change the order of rows. -/
def isReordering : Step → Bool
  | sort _ | findNearest _ => true
  | _ => false

end Step

theorem subperm_map {xs ys : List α} (f : α → β) (h : xs.Subperm ys) : (xs.map f).Subperm (ys.map f) := by
  obtain ⟨zs, perm, sublist⟩ := h
  exact ⟨zs.map f, perm.map f, sublist.map f⟩

section Steps

variable (rules : RegexRules) (rows : List Row)

theorem NearestQuery.identity_mark (query : NearestQuery) (r : RankedRow) :
    (query.mark r).identity = r.row.identity := by
  rw [mark]
  cases query.distanceField <;> rfl

theorem identities_distinctRows (groups : List Assignment) :
    ((distinctRows rules groups rows).value.map Row.identity).Sublist (rows.map Row.identity) := by
  have firsts : (distinctRows rules groups rows).value.map Row.identity =
      ((groupCells rules groups rows).map Cell.first).map Row.identity := by
    rw [distinctRows_eq, List.map_map, List.map_map]
    rfl
  rw [firsts]
  exact ((firsts_sublist _ _).trans List.filter_sublist).map Row.identity

theorem identities_nearestRows (query : NearestQuery) :
    ((nearestRows rules query rows).value.map Row.identity).Subperm (rows.map Row.identity) := by
  have marked (ranked : List RankedRow) :
      (ranked.map query.mark).map Row.identity = (ranked.map (·.row)).map Row.identity := by
    rw [List.map_map, List.map_map]
    exact List.map_congr_left fun r _ => query.identity_mark r
  have kept : (query.cut (rankRows query.measure (rows.filterMap (rankedRow? rules query)))).Subperm
      (rows.filterMap (rankedRow? rules query)) := by
    rw [NearestQuery.cut_eq_take]
    exact (List.take_sublist _ _).subperm.trans rankRows_perm.subperm
  rw [nearestRows_value, marked]
  have ranked := subperm_map (·.row) kept
  rw [map_row_filterMap_rankedRow?] at ranked
  exact subperm_map Row.identity (ranked.trans List.filter_sublist.subperm)

/-- A step that neither aggregates nor moves rows leaves some of them where they are. -/
theorem Step.identities_sublist {step : Step} (single : step.isAggregate = false)
    (still : step.isReordering = false) :
    ((step.run rules rows).value.map Row.identity).Sublist (rows.map Row.identity) := by
  cases step with
  | filter condition =>
    rw [run, filterRows_value]
    exact List.filter_sublist.map Row.identity
  | limit n => exact (List.take_sublist n rows).map Row.identity
  | offset n => exact (List.drop_sublist n rows).map Row.identity
  | addFields fields | select fields =>
    rw [run, each_value, List.map_map]
    exact List.Sublist.refl _
  | distinct groups => exact identities_distinctRows rules rows groups
  | aggregate | sort | findNearest => contradiction

/-- A step that does not aggregate invents no row and doubles none. -/
theorem Step.identities_subperm {step : Step} (single : step.isAggregate = false) :
    ((step.run rules rows).value.map Row.identity).Subperm (rows.map Row.identity) := by
  cases step with
  | sort keys =>
    rw [run, sortRows_eq]
    exact subperm_map Row.identity (mergeHalves_perm _ rows).subperm
  | findNearest query => exact identities_nearestRows rules rows query
  | aggregate => contradiction
  | filter | limit | offset | addFields | select | distinct =>
    exact (Step.identities_sublist rules rows rfl rfl).subperm

theorem Step.identities_aggregate {step : Step} (grouped : step.isAggregate = true) :
    ∀ row ∈ (step.run rules rows).value, row.identity = .anonymous := by
  cases step with
  | aggregate groups accumulators =>
    intro row hr
    rw [run, aggregateRows_eq] at hr
    obtain ⟨part, _, rfl⟩ := List.mem_map.mp hr
    rfl
  | filter | sort | limit | offset | addFields | select | distinct | findNearest => contradiction

/-- No step gives rows without an identity one. -/
theorem Step.identities_anonymous (step : Step) (all : ∀ row ∈ rows, row.identity = .anonymous) :
    ∀ row ∈ (step.run rules rows).value, row.identity = .anonymous := by
  intro row hr
  cases grouped : step.isAggregate with
  | true => exact step.identities_aggregate rules rows grouped row hr
  | false =>
    obtain ⟨origin, member, same⟩ := List.mem_map.mp
      ((Step.identities_subperm rules rows grouped).subset (List.mem_map_of_mem hr))
    rw [← same, all origin member]

theorem rows_runSteps_cons (step : Step) (steps : List Step) :
    (runSteps rules rows (step :: steps)).rows = (runSteps rules (step.run rules rows).value steps).rows := rfl

theorem identities_runSteps_subperm {steps : List Step} (single : ∀ step ∈ steps, step.isAggregate = false) :
    ((runSteps rules rows steps).rows.map Row.identity).Subperm (rows.map Row.identity) := by
  induction steps generalizing rows with
  | nil => exact List.Subperm.refl _
  | cons step steps ih =>
    rw [List.forall_mem_cons] at single
    rw [rows_runSteps_cons]
    exact (ih _ single.2).trans (Step.identities_subperm rules rows single.1)

theorem identities_runSteps_sublist {steps : List Step} (single : ∀ step ∈ steps, step.isAggregate = false)
    (still : ∀ step ∈ steps, step.isReordering = false) :
    ((runSteps rules rows steps).rows.map Row.identity).Sublist (rows.map Row.identity) := by
  induction steps generalizing rows with
  | nil => exact List.Sublist.refl _
  | cons step steps ih =>
    rw [List.forall_mem_cons] at single still
    rw [rows_runSteps_cons]
    exact (ih _ single.2 still.2).trans (Step.identities_sublist rules rows single.1 still.1)

theorem identities_runSteps_anonymous {steps : List Step} (all : ∀ row ∈ rows, row.identity = .anonymous) :
    ∀ row ∈ (runSteps rules rows steps).rows, row.identity = .anonymous := by
  induction steps generalizing rows with
  | nil => exact all
  | cons step steps ih =>
    rw [rows_runSteps_cons]
    exact ih _ (step.identities_anonymous rules rows all)

/-- Once rows are aggregated, nothing of what comes of them has an identity. -/
theorem identities_runSteps_aggregate {steps : List Step} (grouped : ∃ step ∈ steps, step.isAggregate = true) :
    ∀ row ∈ (runSteps rules rows steps).rows, row.identity = .anonymous := by
  induction steps generalizing rows with
  | nil =>
    obtain ⟨_, member, _⟩ := grouped
    contradiction
  | cons step steps ih =>
    rw [List.exists_mem_cons_iff] at grouped
    rw [rows_runSteps_cons]
    rcases grouped with now | later
    · exact identities_runSteps_anonymous rules _ (step.identities_aggregate rules rows now)
    · exact ih _ later

end Steps

section Origins

variable {α β ι : Type}

/-- Items of one list at different places of another one, so that their labels agree. -/
theorem exists_injective_of_subperm [DecidableEq ι] {f : α → ι} {g : β → ι} {xs : List α} {ys : List β}
    (h : (xs.map f).Subperm (ys.map g)) :
    ∃ origin : Fin xs.length → Fin ys.length, Function.Injective origin ∧ ∀ i, f xs[i] = g ys[origin i] := by
  refine ⟨fun i => (h.idxInj (i.cast (List.length_map f).symm)).cast (List.length_map g), ?_, ?_⟩
  · intro i j same
    exact Fin.cast_injective _ (h.idxInj_injective (Fin.cast_injective _ same))
  · intro i
    have found := h.getElem_idxInj_eq_getElem (i := i.cast (List.length_map f).symm)
    rw [List.getElem_map, List.getElem_map] at found
    exact found.symm

/-- The same in the order of the other list. -/
theorem exists_strictMono_of_sublist {f : α → ι} {g : β → ι} {xs : List α} {ys : List β}
    (h : (xs.map f).Sublist (ys.map g)) :
    ∃ origin : Fin xs.length → Fin ys.length, StrictMono origin ∧ ∀ i, f xs[i] = g ys[origin i] := by
  obtain ⟨place, found⟩ := List.sublist_iff_exists_fin_orderEmbedding_get_eq.mp h
  refine ⟨fun i => (place (i.cast (List.length_map f).symm)).cast (List.length_map g), ?_, ?_⟩
  · intro i j less
    exact place.strictMono less
  · intro i
    have here := found (i.cast (List.length_map f).symm)
    rw [List.get_eq_getElem, List.get_eq_getElem, List.getElem_map, List.getElem_map] at here
    exact here

end Origins

def Document.identity (doc : Document) : Identity := doc.toRow.identity

/-- The row has the key and the times of the document. -/
def Row.IsOf (row : Row) (doc : Document) : Prop :=
  row.key = some doc.key ∧ row.updateTime = some doc.updateTime ∧ row.createTime = doc.createTime

theorem Row.isOf_of_identity {row : Row} {doc : Document} (same : row.identity = doc.identity) : row.IsOf doc :=
  ⟨congrArg Identity.key same, congrArg Identity.updateTime same, congrArg Identity.createTime same⟩

namespace Source

variable (s : Source) (docs : List Document)

def chosen : List Document := docs.filter fun doc => s.chooses doc.key

theorem identities_rows : (s.rows docs).map Row.identity = (s.chosen docs).map Document.identity := by
  rw [rows, List.map_map]
  rfl

/-- The places of the chosen documents among all. -/
theorem exists_strictMono_chosen : ∃ place : Fin (s.chosen docs).length → Fin docs.length, StrictMono place ∧
    ∀ i, s.chooses docs[place i].key = true ∧ (s.chosen docs)[i] = docs[place i] := by
  obtain ⟨place, found⟩ := List.sublist_iff_exists_fin_orderEmbedding_get_eq.mp
    (List.filter_sublist : (s.chosen docs).Sublist docs)
  refine ⟨place, place.strictMono, ?_⟩
  intro i
  have same : (s.chosen docs)[i] = docs[place i] := found i
  have member : (s.chosen docs)[i] ∈ s.chosen docs := List.getElem_mem _
  rw [same] at member
  exact ⟨(List.mem_filter.mp member).2, same⟩

end Source

namespace Pipeline

/-- Without an aggregation the rows of a result are those of different documents that the source chose, in their order
unless rows are sorted or searched. With one they are rows of no document. -/
theorem execute_origins (rules : RegexRules) (p : Pipeline) (docs : List Document) :
    let rows := (p.execute rules docs).rows
    ((∀ step ∈ p.steps, step.isAggregate = false) →
      ∃ origin : Fin rows.length → Fin docs.length, Function.Injective origin ∧
        (∀ i, p.source.chooses docs[origin i].key = true ∧ rows[i].IsOf docs[origin i]) ∧
        ((∀ step ∈ p.steps, step.isReordering = false) → StrictMono origin)) ∧
      ((∃ step ∈ p.steps, step.isAggregate = true) →
        ∀ row ∈ rows, row.key = none ∧ row.updateTime = none ∧ row.createTime = none) := by
  intro rows
  constructor
  · intro single
    obtain ⟨place, ascending, chosen⟩ := p.source.exists_strictMono_chosen docs
    have drawn {among : Fin rows.length → Fin (p.source.chosen docs).length}
        (same : ∀ i, rows[i].identity = (p.source.chosen docs)[among i].identity) (i : Fin rows.length) :
        p.source.chooses docs[place (among i)].key = true ∧ rows[i].IsOf docs[place (among i)] := by
      obtain ⟨chooses, here⟩ := chosen (among i)
      exact ⟨chooses, Row.isOf_of_identity (here ▸ same i)⟩
    -- One map has to serve both statements, so it is an ordered one wherever there is one.
    by_cases still : ∀ step ∈ p.steps, step.isReordering = false
    · have sublist := identities_runSteps_sublist rules (p.source.rows docs) single still
      rw [Source.identities_rows] at sublist
      obtain ⟨among, order, same⟩ := exists_strictMono_of_sublist sublist
      have ordered : StrictMono (place ∘ among) := ascending.comp order
      exact ⟨place ∘ among, ordered.injective, drawn same, fun _ => ordered⟩
    · have subperm := identities_runSteps_subperm rules (p.source.rows docs) single
      rw [Source.identities_rows] at subperm
      obtain ⟨among, injective, same⟩ := exists_injective_of_subperm subperm
      exact ⟨place ∘ among, ascending.injective.comp injective, drawn same, fun none => absurd none still⟩
  · intro grouped row hr
    have anonymous := identities_runSteps_aggregate rules (p.source.rows docs) grouped row hr
    exact ⟨congrArg Identity.key anonymous, congrArg Identity.updateTime anonymous,
      congrArg Identity.createTime anonymous⟩

/-- Two kinds among three documents of a collection group, one document being in another collection. -/
theorem execute_origins_of_distinct_kinds :
    let p : Pipeline :=
      ⟨.collectionGroup "users", [.distinct [.ofField ⟨["kind"]⟩]], rfl, List.forall_mem_singleton.mpr rfl⟩
    let doc (collection id : String) (kind : Int64) : Document :=
      ⟨⟨⟨[collection, id]⟩, by simp [ResourcePath.length]⟩, ⟨0, 0, by decide, by decide, by decide⟩, none,
        [("kind", .integer kind)]⟩
    let docs := [doc "teams" "x" 3, doc "users" "a" 1, doc "users" "b" 1, doc "users" "c" 2]
    let rows := (p.execute 100 docs).rows
    (∀ step ∈ p.steps, step.isAggregate = false) ∧ (∀ step ∈ p.steps, step.isReordering = false) ∧ rows.length = 2 ∧
      ∃ origin : Fin rows.length → Fin docs.length, StrictMono origin ∧
        ∀ i, p.source.chooses docs[origin i].key = true ∧ rows[i].IsOf docs[origin i] := by
  intro p doc docs rows
  have single : ∀ step ∈ p.steps, step.isAggregate = false := by simp [p, Step.isAggregate]
  have still : ∀ step ∈ p.steps, step.isReordering = false := by simp [p, Step.isReordering]
  obtain ⟨origin, _, drawn, ordered⟩ := (execute_origins 100 p docs).1 single
  exact ⟨single, still, by decide +kernel, origin, ordered still, drawn⟩

end Pipeline
end DocQuery
