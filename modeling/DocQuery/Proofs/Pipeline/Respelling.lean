import Mathlib.Logic.Relation
import DocQuery.Proofs.Expr
import DocQuery.Proofs.Pipeline.EntryOrder

/-! What canonical texts forget of pipelines: the spelling of constants, the order in which assignments and documents
are listed, slashes that separate nothing, and what is known of calls. -/
namespace DocQuery

theorem splitAt_append (separator : Char) (as bs : List Char) :
    splitAt separator (as ++ separator :: bs) = splitAt separator as ++ splitAt separator bs := by
  induction as with
  | nil => simp [splitAt]
  | cons a as ih =>
    rw [List.cons_append, splitAt, splitAt, ih]
    split
    · rfl
    · cases cut : splitAt separator as with
      | nil =>
        rw [splitAt_eq_splitOn] at cut
        exact absurd cut (List.splitOn_ne_nil _ _)
      | cons piece pieces => rfl

/-- A text, and one with a slash more that separates nothing. -/
inductive ExtraSlash : List Char → List Char → Prop
  | leading (cs : List Char) : ExtraSlash cs ('/' :: cs)
  | trailing (cs : List Char) : ExtraSlash cs (cs ++ ['/'])
  | repeated (as bs : List Char) : ExtraSlash (as ++ '/' :: bs) (as ++ '/' :: '/' :: bs)

/-- Texts that differ in such slashes only, however many. -/
def SameButSlashes : String → String → Prop :=
  Relation.EqvGen fun s t => ExtraSlash s.toList t.toList

theorem SameButSlashes.parse_eq {s t : String} (h : SameButSlashes s t) :
    ResourcePath.parse s = ResourcePath.parse t := by
  have pieces {cs ds : List Char} (extra : ExtraSlash cs ds) :
      (splitAt '/' cs).filter (!·.isEmpty) = (splitAt '/' ds).filter (!·.isEmpty) := by
    have none : (splitAt '/' []).filter (!·.isEmpty) = [] := rfl
    cases extra with
    | leading cs => rw [← List.nil_append ('/' :: cs), splitAt_append, List.filter_append, none, List.nil_append]
    | trailing cs => rw [splitAt_append, List.filter_append, none, List.append_nil]
    | repeated as bs =>
      rw [splitAt_append, splitAt_append, ← List.nil_append ('/' :: bs), splitAt_append, List.filter_append,
        List.filter_append, List.filter_append, none, List.nil_append]
  refine (eq_equivalence.comap ResourcePath.parse).eqvGen_iff.mp (h.mono fun s t extra => ?_)
  change ResourcePath.parse s = ResourcePath.parse t
  rw [ResourcePath.parse, ResourcePath.parse, pieces extra]

/-- Items related one by one once the first ones are put in some order. -/
def UpToOrder (R : α → α → Prop) (as bs : List α) : Prop := ∃ cs, as.Perm cs ∧ List.Forall₂ R cs bs

theorem UpToOrder.map_perm {R : α → α → Prop} {f : α → β} {as bs : List α} (h : UpToOrder R as bs)
    (congr : ∀ a b, R a b → f a = f b) : (as.map f).Perm (bs.map f) := by
  obtain ⟨cs, perm, related⟩ := h
  rw [← map_eq_of_forall₂ related fun a _ b => congr a b]
  exact perm.map f

theorem UpToOrder.of_forall₂ {R : α → α → Prop} {as bs : List α} (h : List.Forall₂ R as bs) : UpToOrder R as bs :=
  ⟨as, .refl as, h⟩

theorem UpToOrder.length_eq {R : α → α → Prop} {as bs : List α} (h : UpToOrder R as bs) : as.length = bs.length := by
  obtain ⟨cs, perm, related⟩ := h
  exact perm.length_eq.trans related.length_eq

/-- Expressions with other spellings of constants, and with calls that are known to be boolean or not. -/
inductive Expr.Respelled : Expr → Expr → Prop
  | field (path : FieldPath) : Respelled (.field path) (.field path)
  | constant {v w : Value} : v.order w = .eq → Respelled (.constant v) (.constant w)
  | application {e e' : Expr} {f : Builtin} {as bs : List Expr} : e.application? = some (f, as) →
      e'.application? = some (f, bs) → List.Forall₂ Respelled as bs → Respelled e e'
  | list {as bs : List Expr} : List.Forall₂ Respelled as bs → Respelled (.list as) (.list bs)

def Assignment.Respelled (a b : Assignment) : Prop := a.path = b.path ∧ a.expr.Respelled b.expr

def Accumulator.Respelled (a b : Accumulator) : Prop :=
  a.path = b.path ∧ a.kind = b.kind ∧ List.Forall₂ Expr.Respelled a.args b.args

def SortKey.Respelled (k l : SortKey) : Prop := k.expr.Respelled l.expr ∧ k.direction = l.direction

structure NearestQuery.Respelled (q r : NearestQuery) : Prop where
  field : q.field.Respelled r.field
  target : List.Forall₂ (fun d e => (Value.double d).order (.double e) = .eq) q.target r.target
  measure : q.measure = r.measure
  limit : q.limit = r.limit
  distanceField : q.distanceField = r.distanceField

inductive Step.Respelled : Step → Step → Prop
  | filter {c d : Condition} : c.toExpr.Respelled d.toExpr → Respelled (.filter c) (.filter d)
  | sort {ks ls : List SortKey} : List.Forall₂ SortKey.Respelled ks ls → Respelled (.sort ks) (.sort ls)
  | limit (n : Nat) : Respelled (.limit n) (.limit n)
  | offset (n : Nat) : Respelled (.offset n) (.offset n)
  | addFields {as bs : List Assignment} : UpToOrder Assignment.Respelled as bs →
      Respelled (.addFields as) (.addFields bs)
  | select {as bs : List Assignment} : UpToOrder Assignment.Respelled as bs → Respelled (.select as) (.select bs)
  | distinct {gs hs : List Assignment} : UpToOrder Assignment.Respelled gs hs →
      Respelled (.distinct gs) (.distinct hs)
  | aggregate {gs hs : List Assignment} {as bs : List Accumulator} : UpToOrder Assignment.Respelled gs hs →
      UpToOrder Accumulator.Respelled as bs → Respelled (.aggregate gs as) (.aggregate hs bs)
  | findNearest {q r : NearestQuery} : q.Respelled r → Respelled (.findNearest q) (.findNearest r)

/-- One key, or keys read from texts that differ in slashes. -/
inductive DocumentKey.Respelled : DocumentKey → DocumentKey → Prop
  | same (key : DocumentKey) : Respelled key key
  | read {s t : String} {j k : DocumentKey} : SameButSlashes s t → parse? s = some j → parse? t = some k →
      Respelled j k

inductive Source.Respelled : Source → Source → Prop
  | same (s : Source) : Respelled s s
  | collection {s t : String} : SameButSlashes s t → Respelled (.collection (.parse s)) (.collection (.parse t))
  | documents {js ks : List DocumentKey} : UpToOrder DocumentKey.Respelled js ks →
      Respelled (.documents js) (.documents ks)

structure Pipeline.Respelled (p q : Pipeline) : Prop where
  source : p.source.Respelled q.source
  steps : List.Forall₂ Step.Respelled p.steps q.steps

theorem Expr.Respelled.canonical_eq {e e' : Expr} (h : e.Respelled e') : e.canonical = e'.canonical := by
  have application {e e' : Expr} {f : Builtin} {as bs : List Expr} (he : e.application? = some (f, as))
      (he' : e'.application? = some (f, bs)) (args : List.Forall₂ Respelled as bs)
      (ih : ∀ e ∈ as, ∀ {e' : Expr}, e.Respelled e' → e.canonical = e'.canonical) :
      e.canonical = e'.canonical := by
    rw [canonical_application he, canonical_application he', canonicalArgs_eq_map, canonicalArgs_eq_map,
      map_eq_of_forall₂ args fun e member _ => ih e member]
  induction e generalizing e' with
  | field path =>
    cases h with
    | field => rfl
    | application => contradiction
  | constant v =>
    cases h with
    | constant tie => rw [canonical, canonical, Value.canonical_congr tie]
    | application => contradiction
  | call f args ih =>
    cases h with
    | application he he' args =>
      cases he
      exact application rfl he' args ih
  | condition f args _ ih =>
    cases h with
    | application he he' args =>
      cases he
      exact application rfl he' args ih
  | list items ih =>
    cases h with
    | list items =>
      rw [canonical, canonical, canonicalArgs_eq_map, canonicalArgs_eq_map,
        map_eq_of_forall₂ items fun e member _ => ih e member]
    | application => contradiction

theorem Assignment.Respelled.canonicalPair_eq {a b : Assignment} (h : a.Respelled b) :
    a.canonicalPair = b.canonicalPair := by
  rw [canonicalPair, canonicalPair, h.1, h.2.canonical_eq]

theorem Accumulator.Respelled.canonicalPair_eq {a b : Accumulator} (h : a.Respelled b) :
    a.canonicalPair = b.canonicalPair := by
  rw [canonicalPair, canonicalPair, h.1, h.2.1, canonicalArgs_eq_map, canonicalArgs_eq_map,
    map_eq_of_forall₂ h.2.2 fun _ _ _ => Expr.Respelled.canonical_eq]

theorem SortKey.Respelled.canonical_eq {k l : SortKey} (h : k.Respelled l) : k.canonical = l.canonical := by
  rw [canonical, canonical, h.1.canonical_eq, h.2]

theorem NearestQuery.Respelled.canonical_eq {q r : NearestQuery} (h : q.Respelled r) : q.canonical = r.canonical := by
  have target : q.target.map Double.canonical = r.target.map Double.canonical :=
    map_eq_of_forall₂ h.target fun _ _ _ tie => Value.canonical_congr tie
  simp only [canonical, h.field.canonical_eq, h.measure, h.limit, h.distanceField, target]

theorem canonicalAssignments_perm {ps qs : List (FieldPath × String)} (h : ps.Perm qs) :
    canonicalAssignments ps = canonicalAssignments qs := by
  rw [canonicalAssignments, canonicalAssignments, sortTexts_perm (h.map _)]

theorem UpToOrder.canonicalFields_eq {as bs : List Assignment} (h : UpToOrder Assignment.Respelled as bs) :
    canonicalFields as = canonicalFields bs :=
  canonicalAssignments_perm (h.map_perm fun _ _ => Assignment.Respelled.canonicalPair_eq)

theorem Step.Respelled.canonical_eq {s t : Step} (h : s.Respelled t) :
    (Stage.step s).canonical = (Stage.step t).canonical := by
  have args : s.name = t.name ∧ s.canonicalArgs = t.canonicalArgs := by
    cases h with
    | filter condition => exact ⟨rfl, condition.canonical_eq⟩
    | sort keys =>
      rw [canonicalArgs, canonicalArgs, map_eq_of_forall₂ keys fun _ _ _ => SortKey.Respelled.canonical_eq]
      exact ⟨rfl, rfl⟩
    | limit | offset => exact ⟨rfl, rfl⟩
    | addFields fields | select fields | distinct fields => exact ⟨rfl, fields.canonicalFields_eq⟩
    | @aggregate gs hs as bs groups accumulators =>
      have none : gs.isEmpty = hs.isEmpty := by
        rw [Bool.eq_iff_iff, List.isEmpty_iff_length_eq_zero, List.isEmpty_iff_length_eq_zero, groups.length_eq]
      rw [canonicalArgs, canonicalArgs, canonicalGrouping, canonicalGrouping, groups.canonicalFields_eq,
        canonicalAssignments_perm (accumulators.map_perm fun _ _ => Accumulator.Respelled.canonicalPair_eq), none]
      exact ⟨rfl, rfl⟩
    | findNearest query => exact ⟨rfl, query.canonical_eq⟩
  rw [Stage.canonical, Stage.canonical]
  simp only [Stage.name, args]

theorem DocumentKey.Respelled.eq {j k : DocumentKey} (h : j.Respelled k) : j = k := by
  cases h with
  | same => rfl
  | read slashes first second =>
    rw [parse?, slashes.parse_eq] at first
    exact Option.some.inj (first.symm.trans second)

theorem Source.Respelled.canonical_eq {s t : Source} (h : s.Respelled t) :
    (Stage.source s).canonical = (Stage.source t).canonical := by
  cases h with
  | same => rfl
  | collection slashes => rw [slashes.parse_eq]
  | documents keys =>
    have texts := keys.map_perm (f := DocumentKey.text) fun _ _ related => congrArg _ related.eq
    simp only [Stage.canonical, Stage.name, name, canonicalArgs, sortTexts_perm texts]

theorem Pipeline.Respelled.canonical_eq {p q : Pipeline} (h : p.Respelled q) : p.canonical = q.canonical := by
  have steps : (p.steps.map Stage.step).map Stage.canonical = (q.steps.map Stage.step).map Stage.canonical := by
    rw [List.map_map, List.map_map]
    exact map_eq_of_forall₂ h.steps fun _ _ _ => Step.Respelled.canonical_eq
  rw [canonical, canonical, stages, stages, List.map_cons, List.map_cons, steps, h.source.canonical_eq]

theorem listsSame_iff {same : α → α → Bool} {as bs : List α} :
    listsSame same as bs ↔ List.Forall₂ (fun a b => same a b) as bs := by
  induction as generalizing bs with
  | nil => cases bs <;> simp [listsSame]
  | cons a as ih => cases bs <;> simp [listsSame, ih]

theorem argsSame_iff {as bs : List Expr} : argsSame as bs ↔ List.Forall₂ (fun a b => a.same b) as bs := by
  induction as generalizing bs with
  | nil => cases bs <;> simp [argsSame]
  | cons a as ih => cases bs <;> simp [argsSame, ih]

theorem Value.order_of_same {v w : Value} (hv : v.distinctKeys) (hw : w.distinctKeys) (spelled : v.same w) :
    v.order w = .eq := by
  have agree : v.Agrees (fun _ => True) true w := .of_same_distinct hv hw (fun _ _ => trivial) spelled
  exact agree.order_eq

theorem Double.order_of_equals {d e : Double} (h : d.equals e) : (Value.double d).order (.double e) = .eq := by
  change d.order e = .eq
  simp only [equals, Bool.and_eq_true, Bool.not_eq_true', beq_iff_eq] at h
  rw [order, h.1.1, h.1.2, h.2]
  exact Int.compare_eq_eq.mpr rfl

namespace Expr

theorem respelled_of_same {e e' : Expr} (distinct : e.distinctKeys) (distinct' : e'.distinctKeys)
    (h : e.same e') : e.Respelled e' := by
  have operands {as bs : List Expr} (ih : ∀ e ∈ as, ∀ {e' : Expr}, e.distinctKeys → e'.distinctKeys → e.same e' →
      e.Respelled e') (da : argsDistinct as) (db : argsDistinct bs) (h : argsSame as bs) :
      List.Forall₂ Respelled as bs :=
    forall₂_imp_mem (argsSame_iff.mp h) fun a ha b hb =>
      ih a ha (argsDistinct_iff.mp da a ha) (argsDistinct_iff.mp db b hb)
  induction e generalizing e' with
  | field path =>
    cases e' with
    | field =>
      rw [same, beq_iff_eq] at h
      exact h ▸ .field path
    | _ => contradiction
  | constant v =>
    cases e' with
    | constant w => exact .constant (Value.order_of_same distinct distinct' h)
    | _ => contradiction
  | call f as ih =>
    cases e' with
    | call g bs =>
      rw [same, Bool.and_eq_true, beq_iff_eq] at h
      obtain ⟨rfl, args⟩ := h
      exact .application rfl rfl (operands ih distinct distinct' args)
    | _ => contradiction
  | condition f as _ ih =>
    cases e' with
    | condition g bs =>
      rw [same, Bool.and_eq_true, beq_iff_eq] at h
      obtain ⟨rfl, args⟩ := h
      exact .application rfl rfl (operands ih distinct distinct' args)
    | _ => contradiction
  | list items ih =>
    cases e' with
    | list items' => exact .list (operands ih distinct distinct' h)
    | _ => contradiction

end Expr

section Same

variable {as bs : List Assignment}

theorem Assignment.respelled_of_same {a b : Assignment} (distinct : a.expr.distinctKeys)
    (distinct' : b.expr.distinctKeys) (h : a.same b) : a.Respelled b := by
  rw [same, Bool.and_eq_true, beq_iff_eq] at h
  exact ⟨h.1, Expr.respelled_of_same distinct distinct' h.2⟩

theorem Accumulator.respelled_of_same {a b : Accumulator} (distinct : ∀ e ∈ a.args, e.distinctKeys)
    (distinct' : ∀ e ∈ b.args, e.distinctKeys) (h : a.same b) : a.Respelled b := by
  rw [same, Bool.and_eq_true, Bool.and_eq_true, beq_iff_eq, beq_iff_eq, argsSame_iff] at h
  refine ⟨h.1.1, h.1.2, forall₂_imp_mem h.2 fun e he e' he' => ?_⟩
  exact Expr.respelled_of_same (distinct e he) (distinct' e' he')

theorem assignments_respelled_of_same (distinct : ∀ a ∈ as, a.expr.distinctKeys)
    (distinct' : ∀ b ∈ bs, b.expr.distinctKeys) (h : listsSame Assignment.same as bs) :
    UpToOrder Assignment.Respelled as bs :=
  .of_forall₂ <| forall₂_imp_mem (listsSame_iff.mp h) fun a ha b hb =>
    Assignment.respelled_of_same (distinct a ha) (distinct' b hb)

theorem Step.respelled_of_same {s t : Step} (distinct : s.distinctKeys) (distinct' : t.distinctKeys)
    (h : s.same t) : s.Respelled t := by
  rw [distinctKeys_iff] at distinct distinct'
  cases s with
  | filter c =>
    cases t with
    | filter d =>
      exact .filter (Expr.respelled_of_same (distinct _ List.mem_cons_self) (distinct' _ List.mem_cons_self) h)
    | _ => contradiction
  | sort ks =>
    cases t with
    | sort ls =>
      refine .sort (forall₂_imp_mem (listsSame_iff.mp h) fun k hk l hl same => ?_)
      rw [SortKey.same, Bool.and_eq_true, beq_iff_eq] at same
      exact ⟨Expr.respelled_of_same (distinct _ (List.mem_map_of_mem hk)) (distinct' _ (List.mem_map_of_mem hl)) same.1,
        same.2⟩
    | _ => contradiction
  | limit n =>
    cases t with
    | limit m =>
      rw [same, beq_iff_eq] at h
      exact h ▸ .limit n
    | _ => contradiction
  | offset n =>
    cases t with
    | offset m =>
      rw [same, beq_iff_eq] at h
      exact h ▸ .offset n
    | _ => contradiction
  | addFields as =>
    cases t with
    | addFields bs =>
      exact .addFields (assignments_respelled_of_same (List.forall_mem_map.mp distinct)
        (List.forall_mem_map.mp distinct') h)
    | _ => contradiction
  | select as =>
    cases t with
    | select bs =>
      exact .select (assignments_respelled_of_same (List.forall_mem_map.mp distinct)
        (List.forall_mem_map.mp distinct') h)
    | _ => contradiction
  | distinct as =>
    cases t with
    | distinct bs =>
      exact .distinct (assignments_respelled_of_same (List.forall_mem_map.mp distinct)
        (List.forall_mem_map.mp distinct') h)
    | _ => contradiction
  | aggregate gs as =>
    cases t with
    | aggregate hs bs =>
      rw [same, Bool.and_eq_true] at h
      obtain ⟨groups, totals⟩ := List.forall_mem_append.mp distinct
      obtain ⟨groups', totals'⟩ := List.forall_mem_append.mp distinct'
      refine .aggregate (assignments_respelled_of_same (List.forall_mem_map.mp groups)
        (List.forall_mem_map.mp groups') h.1) (.of_forall₂ (forall₂_imp_mem (listsSame_iff.mp h.2) ?_))
      intro a ha b hb
      exact Accumulator.respelled_of_same (List.forall_mem_flatMap.mp totals a ha)
        (List.forall_mem_flatMap.mp totals' b hb)
    | _ => contradiction
  | findNearest q =>
    cases t with
    | findNearest r =>
      rw [same, NearestQuery.same] at h
      simp only [Bool.and_eq_true, beq_iff_eq, componentsEqual_iff] at h
      obtain ⟨⟨⟨⟨field, target⟩, measure⟩, limit⟩, distanceField⟩ := h
      exact .findNearest {
        field := Expr.respelled_of_same (distinct _ List.mem_cons_self) (distinct' _ List.mem_cons_self) field
        target := target.imp fun _ _ => Double.order_of_equals
        measure, limit, distanceField }
    | _ => contradiction

theorem Pipeline.respelled_of_same {p q : Pipeline} (distinct : ∀ step ∈ p.steps, step.distinctKeys)
    (distinct' : ∀ step ∈ q.steps, step.distinctKeys) (h : p.same q) : p.Respelled q := by
  rw [same, Bool.and_eq_true, beq_iff_eq, listsSame_iff] at h
  refine ⟨h.1 ▸ .same p.source, forall₂_imp_mem h.2 fun s hs t ht => ?_⟩
  exact Step.respelled_of_same (distinct s hs) (distinct' t ht)

end Same

/-- Pipelines that differ in what texts forget, however often and wherever, have one canonical text, and so have
pipelines that are the same as written. -/
theorem Pipeline.sameCanonical_of_respelled :
    (∀ p q, Relation.EqvGen Respelled p q → p.sameCanonical q) ∧
      ∀ p q : Pipeline, (∀ step ∈ p.steps, step.distinctKeys) → (∀ step ∈ q.steps, step.distinctKeys) → p.same q →
        p.sameCanonical q := by
  refine ⟨fun p q related => ?_, fun p q distinct distinct' same => ?_⟩
  · rw [sameCanonical, beq_iff_eq]
    exact (eq_equivalence.comap canonical).eqvGen_iff.mp (related.mono fun _ _ => Respelled.canonical_eq)
  · rw [sameCanonical, beq_iff_eq]
    exact (respelled_of_same distinct distinct' same).canonical_eq

namespace Pipeline

def sampleKey (collection : String) : DocumentKey := ⟨⟨[collection, "b"]⟩, by simp [ResourcePath.length]⟩

/-- Two documents, a condition with a constant, a selection and a search. -/
def sample (first second : String) (apart : first ≠ second) (constant : Value) (fields : List Assignment)
    (target : Double) : Pipeline where
  source := .documents [sampleKey first, sampleKey second]
  steps := [.filter ⟨.relation .eq, [.field ⟨["a"]⟩, .constant constant], rfl⟩, .select fields,
    .findNearest ⟨.field ⟨["v"]⟩, [target], .euclidean, none, none⟩]
  source_sound := by simp [Source.fault?, firstRepeated?, sampleKey, apart.symm]
  steps_sound := by simp [Step.fault?, NearestQuery.fault?]

/-- Documents in another order, one of them with more slashes, other spellings of numbers, and a comparison after the
other assignment and known to be boolean; and the entries of a map in another order. -/
theorem sameCanonical_of_sample :
    (sample "a" "c" (by decide) (.array [.integer 1, .integer 0])
        [⟨⟨["x"]⟩, .call (.relation .eq) [.constant (.integer 1)]⟩, .ofField ⟨["y"]⟩] .zero).sameCanonical
        (sample "c" "a" (by decide) (.array [.double .one, .double .negativeZero])
          [.ofField ⟨["y"]⟩, ⟨⟨["x"]⟩, .condition (.relation .eq) [.constant (.double .one)] rfl⟩] .negativeZero) ∧
      (sample "a" "c" (by decide) (.map [("k", .integer 1), ("l", .integer 0)]) [] .zero).sameCanonical
        (sample "a" "c" (by decide) (.map [("l", .integer 0), ("k", .integer 1)]) [] .negativeZero) := by
  have slashes : SameButSlashes "c/b" "/c//b/" :=
    .trans _ "/c/b" _ (.rel _ _ (.leading _)) (.trans _ "/c//b" _ (.rel _ _ (.repeated ['/', 'c'] ['b']))
      (.rel _ _ (.trailing _)))
  have comparison : Expr.Respelled (.call (.relation .eq) [.constant (.integer 1)])
      (.condition (.relation .eq) [.constant (.double .one)] rfl) :=
    .application rfl rfl (.cons (.constant (by decide +kernel)) .nil)
  refine ⟨sameCanonical_of_respelled.1 _ _ (.rel _ _ ⟨?_, ?_⟩),
    sameCanonical_of_respelled.2 _ _ (by decide) (by decide) (by decide +kernel)⟩
  · exact .documents ⟨_, .swap _ _ _,
      .cons (.read slashes (by decide +kernel) (by decide +kernel)) (.cons (.same _) .nil)⟩
  · refine .cons (.filter (.application rfl rfl (.cons (.field _) (.cons (.constant (by decide +kernel)) .nil)))) ?_
    refine .cons (.select ⟨_, .swap _ _ _, .cons ⟨rfl, .field _⟩ (.cons ⟨rfl, comparison⟩ .nil)⟩) (.cons ?_ .nil)
    exact .findNearest ⟨.field _, .cons (by decide +kernel) .nil, rfl, rfl, rfl⟩

end Pipeline
end DocQuery
