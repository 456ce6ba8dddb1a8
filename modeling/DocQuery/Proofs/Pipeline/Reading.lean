import DocQuery.Proofs.Pipeline.Respelling

/-! Pipelines that their canonical texts determine, up to the order of assignments and documents and the
spelling of constants. -/
namespace DocQuery

/-- The name that a value is written to: the text in a list goes on from it with an equals sign. -/
def FieldPath.legibleAlias (path : FieldPath) : Bool := path.legible [')', '=']

def Assignment.legible (a : Assignment) : Bool := a.path.legibleAlias && a.expr.legible

def Accumulator.legible (a : Accumulator) : Bool := a.path.legibleAlias && argsLegible a.args

def NearestQuery.legible (query : NearestQuery) : Bool :=
  query.field.legible && query.distanceField.all (·.legible [')'])

def Step.legible : Step → Bool
  | filter condition => condition.toExpr.legible
  | sort keys => keys.all (·.expr.legible)
  | addFields fields | select fields | distinct fields => fields.all (·.legible)
  | aggregate groups accumulators => groups.all (·.legible) && accumulators.all (·.legible)
  | findNearest query => query.legible
  | _ => true

def Source.legible : Source → Bool
  | collection path => path.legible [')']
  | collectionGroup id => avoids [')'] id
  | database => true
  | documents keys => keys.all (·.legible [',', ')'])

/-- Whether the text of a pipeline determines it, up to order and spelling. -/
def Pipeline.legible (p : Pipeline) : Bool := p.source.legible && p.steps.all (·.legible)

section Texts

variable {legible : DocumentKey → Prop}

theorem canonicalFields_eq (as : List Assignment) :
    canonicalFields as = ",".intercalate ((inTextOrder Assignment.text as).map (·.text)) := by
  rw [← sortTexts_map, canonicalFields, canonicalAssignments, List.map_map]
  rfl

theorem canonicalAccumulators_eq (as : List Accumulator) : canonicalAssignments (as.map (·.canonicalPair)) =
    ",".intercalate ((inTextOrder Accumulator.text as).map (·.text)) := by
  rw [← sortTexts_map, canonicalAssignments, List.map_map]
  rfl

theorem Expr.Matches.respelled {e e' : Expr} (h : e.Matches legible e') : e.Respelled e' := by
  induction e generalizing e' with
  | field path =>
    cases h with
    | field => exact .field path
    | application => contradiction
  | constant v =>
    cases h with
    | constant agree => exact .constant agree.order_eq
    | application => contradiction
  | call f args ih =>
    cases h with
    | application he he' args =>
      cases he
      exact .application rfl he' (forall₂_imp_mem args fun e he _ _ => ih e he)
  | condition f args _ ih =>
    cases h with
    | application he he' args =>
      cases he
      exact .application rfl he' (forall₂_imp_mem args fun e he _ _ => ih e he)
  | list items ih =>
    cases h with
    | list items => exact .list (forall₂_imp_mem items fun e he _ _ => ih e he)
    | application => contradiction

theorem upToOrder_of_inTextOrder {α : Type} {text : α → String} {R : α → α → Prop} {as bs : List α}
    (h : List.Forall₂ R (inTextOrder text as) (inTextOrder text bs)) : UpToOrder R as bs := by
  have moved : Relation.Comp (List.Forall₂ R) List.Perm (inTextOrder text as) bs := ⟨_, h, inTextOrder_perm text bs⟩
  rw [List.forall₂_comp_perm_eq_perm_comp_forall₂] at moved
  obtain ⟨cs, perm, related⟩ := moved
  exact ⟨cs, (inTextOrder_perm text as).symm.trans perm, related⟩

theorem AssignmentsMatch.upToOrder {as bs : List Assignment} (h : AssignmentsMatch legible as bs) :
    UpToOrder Assignment.Respelled as bs :=
  upToOrder_of_inTextOrder (h.imp fun _ _ both => ⟨both.1, both.2.respelled⟩)

theorem AccumulatorsMatch.upToOrder {as bs : List Accumulator} (h : AccumulatorsMatch legible as bs) :
    UpToOrder Accumulator.Respelled as bs :=
  upToOrder_of_inTextOrder (h.imp fun _ _ both =>
    ⟨both.1, both.2.1, both.2.2.imp fun _ _ => Expr.Matches.respelled⟩)

theorem Step.Matches.respelled {s t : Step} (h : s.Matches legible t) : s.Respelled t := by
  cases h with
  | filter condition => exact .filter condition.respelled
  | sort keys => exact .sort (keys.imp fun _ _ both => ⟨both.1.respelled, both.2⟩)
  | limit n => exact .limit n
  | offset n => exact .offset n
  | addFields fields => exact .addFields fields.upToOrder
  | select fields => exact .select fields.upToOrder
  | distinct groups => exact .distinct groups.upToOrder
  | aggregate groups accumulators => exact .aggregate groups.upToOrder accumulators.upToOrder
  | findNearest query =>
    exact .findNearest { query with field := query.field.respelled, target := query.target.imp fun _ _ tie => tie }

theorem Source.Matches.respelled {s t : Source} (h : s.Matches t) : s.Respelled t := by
  cases h with
  | same => exact .same s
  | documents perm => exact .documents ⟨_, perm, List.forall₂_same.mpr fun key _ => .same key⟩

end Texts

theorem assignmentText_starts {path : FieldPath} (h : path.legibleAlias) (text : String) :
    ∃ c cs, (assignmentText (path, text)).toList = c :: cs ∧ c ≠ ')' := by
  rw [FieldPath.legibleAlias, FieldPath.legible, Bool.and_eq_true] at h
  cases begins : path.text.toList with
  | nil => exact ⟨'=', text.toList, by simp [assignmentText, begins], by decide⟩
  | cons c cs =>
    have avoided := List.all_eq_true.mp h.2 c (begins ▸ List.mem_cons_self)
    refine ⟨c, cs ++ '=' :: text.toList, by simp [assignmentText, begins], ?_⟩
    rintro rfl
    contradiction

theorem assignmentText_readsAs {p q : FieldPath} {s t : String} {rest rest' : List Char} (hp : p.legibleAlias)
    (hq : q.legibleAlias)
    (h : (assignmentText (p, s)).toList ++ rest = (assignmentText (q, t)).toList ++ rest') :
    p = q ∧ s.toList ++ rest = t.toList ++ rest' := by
  have parts (path : FieldPath) (text : String) (rest : List Char) :
      (assignmentText (path, text)).toList ++ rest = path.text.toList ++ '=' :: (text.toList ++ rest) := by
    simp [assignmentText]
  rw [parts, parts] at h
  obtain ⟨same, after⟩ := FieldPath.readsAs hp hq (by decide) (by decide) h
  exact ⟨same, List.tail_eq_of_cons_eq after⟩

/-- A list of texts in their order is read as the list of what they are the texts of. -/
theorem readsAs_listing {α : Type} {text : α → String} {same : α → α → Prop} {stops : List Char → Prop}
    {as bs : List α} (comma : ∀ rest, stops (',' :: rest)) (closing : ∀ rest, stops (')' :: rest))
    (starts : ∀ a ∈ as ++ bs, ∃ c cs, (text a).toList = c :: cs ∧ c ≠ ')')
    (members : ∀ a ∈ as, ∀ b ∈ bs, ReadsAs (fun a => (text a).toList) same stops a b) {rest rest' : List Char}
    (h : (",".intercalate ((inTextOrder text as).map text)).toList ++ ')' :: rest =
      (",".intercalate ((inTextOrder text bs).map text)).toList ++ ')' :: rest') :
    List.Forall₂ same (inTextOrder text as) (inTextOrder text bs) ∧ rest = rest' := by
  have member (items : List α) {a : α} : a ∈ inTextOrder text items ↔ a ∈ items :=
    (inTextOrder_perm text items).mem_iff
  rw [toList_commas, toList_commas, List.map_map, List.map_map] at h
  refine readsAs_commas comma closing (by decide) (fun a ha => starts a ?_) (fun a ha b hb => ?_) rest rest' h
  · simpa only [List.mem_append, member] using ha
  · exact members a ((member as).mp ha) b ((member bs).mp hb)

section Steps

variable {legible : DocumentKey → Prop} (admits : ∀ key : DocumentKey, key.legible [')'] → legible key)
  {rest rest' : List Char}
include admits

theorem Assignment.readsAs {a b : Assignment} (ha : a.legible) (hb : b.legible) :
    ReadsAs (·.text.toList) (Matches legible) (fun _ => True) a b := by
  rw [Assignment.legible, Bool.and_eq_true] at ha hb
  intro rest rest' _ _ h
  obtain ⟨path, later⟩ := assignmentText_readsAs ha.1 hb.1 h
  obtain ⟨matched, after⟩ := a.expr.readsMatches admits b.expr ha.2 hb.2 rest rest' trivial trivial later
  exact ⟨⟨path, matched⟩, after⟩

theorem Accumulator.readsAs {a b : Accumulator} (ha : a.legible) (hb : b.legible) :
    ReadsAs (·.text.toList) (Matches legible) (fun _ => True) a b := by
  rw [Accumulator.legible, Bool.and_eq_true, argsLegible_iff] at ha hb
  intro rest rest' _ _ h
  obtain ⟨path, later⟩ := assignmentText_readsAs ha.1 hb.1 h
  obtain ⟨name, args, after⟩ := Expr.readsAs_call a.kind.name_reads.2 b.kind.name_reads.2
    (fun e _ => e.readsMatches admits) ha.2 hb.2 later
  have kind : a.kind = b.kind := by
    rw [← Option.some_inj, ← a.kind.name_reads.1, name, b.kind.name_reads.1]
  exact ⟨⟨path, kind, args⟩, after⟩

theorem assignments_readAs {as bs : List Assignment} (ha : as.all (·.legible)) (hb : bs.all (·.legible))
    (h : (canonicalFields as).toList ++ ')' :: rest = (canonicalFields bs).toList ++ ')' :: rest') :
    AssignmentsMatch legible as bs ∧ rest = rest' := by
  rw [List.all_eq_true] at ha hb
  have starts (a : Assignment) (member : a ∈ as ++ bs) : ∃ c cs, a.text.toList = c :: cs ∧ c ≠ ')' := by
    have clear : a.legible := (List.mem_append.mp member).elim (ha a) (hb a)
    rw [Assignment.legible, Bool.and_eq_true] at clear
    exact assignmentText_starts clear.1 _
  rw [canonicalFields_eq, canonicalFields_eq] at h
  refine readsAs_listing ?_ ?_ starts (fun a hma b hmb => a.readsAs admits (ha a hma) (hb b hmb)) h
  · exact fun _ => trivial
  · exact fun _ => trivial

theorem accumulators_readAs {as bs : List Accumulator} (ha : as.all (·.legible)) (hb : bs.all (·.legible))
    (h : (canonicalAssignments (as.map (·.canonicalPair))).toList ++ ')' :: rest =
      (canonicalAssignments (bs.map (·.canonicalPair))).toList ++ ')' :: rest') :
    AccumulatorsMatch legible as bs ∧ rest = rest' := by
  rw [List.all_eq_true] at ha hb
  have starts (a : Accumulator) (member : a ∈ as ++ bs) : ∃ c cs, a.text.toList = c :: cs ∧ c ≠ ')' := by
    have clear : a.legible := (List.mem_append.mp member).elim (ha a) (hb a)
    rw [Accumulator.legible, Bool.and_eq_true] at clear
    exact assignmentText_starts clear.1 _
  rw [canonicalAccumulators_eq, canonicalAccumulators_eq] at h
  refine readsAs_listing ?_ ?_ starts (fun a hma b hmb => a.readsAs admits (ha a hma) (hb b hmb)) h
  · exact fun _ => trivial
  · exact fun _ => trivial

theorem SortKey.readsAs {k l : SortKey} (hk : k.expr.legible) (hl : l.expr.legible) :
    ReadsAs (·.canonical.toList) (Matches legible) (fun _ => True) k l := by
  intro rest rest' _ _ h
  simp only [canonical, String.toList_append, List.append_assoc] at h
  obtain ⟨matched, later⟩ := k.expr.readsMatches admits l.expr hk hl _ _ trivial trivial h
  obtain ⟨e, d⟩ := k
  obtain ⟨e', d'⟩ := l
  cases d <;> cases d' <;> simp [Direction.name] at later
  · exact ⟨⟨matched, rfl⟩, later⟩
  · exact ⟨⟨matched, rfl⟩, later⟩

theorem sortKeys_readAs {ks ls : List SortKey} (hk : ks.all (·.expr.legible)) (hl : ls.all (·.expr.legible))
    (h : (",".intercalate (ks.map (·.canonical))).toList ++ ')' :: rest =
      (",".intercalate (ls.map (·.canonical))).toList ++ ')' :: rest') :
    List.Forall₂ (SortKey.Matches legible) ks ls ∧ rest = rest' := by
  rw [List.all_eq_true] at hk hl
  have starts (k : SortKey) (_ : k ∈ ks ++ ls) : ∃ c cs, k.canonical.toList = c :: cs ∧ c ≠ ')' := by
    obtain ⟨c, cs, begins, letter⟩ := k.expr.canonical_starts
    exact ⟨c, _, by rw [SortKey.canonical, String.toList_append, String.toList_append, begins]; rfl,
      by rintro rfl; contradiction⟩
  rw [toList_commas, toList_commas, List.map_map, List.map_map] at h
  refine readsAs_commas ?_ ?_ (by decide) starts
    (fun k hmk l hml => k.readsAs admits (hk k hmk) (hl l hml)) rest rest' h
  · exact fun _ => trivial
  · exact fun _ => trivial

omit admits in
theorem target_readsAs {as bs : List Double}
    (h : (canonicalArray (as.map Double.canonical)).toList ++ rest =
      (canonicalArray (bs.map Double.canonical)).toList ++ rest') :
    List.Forall₂ (Double.Agrees false) as bs ∧ rest = rest' := by
  have items (components : List Double) (rest : List Char) :
      (canonicalArray (components.map Double.canonical)).toList ++ rest =
        '[' :: (commas (components.map fun d => (Number.double d).canonical.toList) ++ ']' :: rest) := by
    simp [canonicalArray, commas, Number.canonical, Function.comp_def]
  rw [items, items, List.cons.injEq] at h
  have starts (d : Double) (_ : d ∈ as ++ bs) :
      ∃ c cs, (Number.double d).canonical.toList = c :: cs ∧ c ≠ ']' := by
    obtain ⟨c, cs, begins, number⟩ := (Number.double d).canonical_starts
    exact ⟨c, cs, begins, by rintro rfl; contradiction⟩
  refine readsAs_commas (closed_cons rfl) (closed_cons rfl) (by decide) starts (fun d _ e _ => ?_) rest rest' h.2
  intro rest rest' stop stop' h
  exact Number.readsAs (.double d) (.double e) rest rest' stop stop' h

/-- How the text of a search goes on behind its target. -/
def limitText (limit : Option Nat) : String :=
  match limit with
  | some n => ",limit=" ++ toString n
  | none => ""

def distanceText (path : Option FieldPath) : String :=
  match path with
  | some path => ",distance=" ++ path.text
  | none => ""

omit admits in
theorem distanceText_readsAs {p q : Option FieldPath} (hp : p.all (·.legible [')'])) (hq : q.all (·.legible [')']))
    (h : (distanceText p).toList ++ ')' :: rest = (distanceText q).toList ++ ')' :: rest') :
    p = q ∧ rest = rest' := by
  cases p <;> cases q <;> simp [distanceText] at h
  · exact ⟨rfl, h⟩
  · obtain ⟨rfl, after⟩ := FieldPath.readsAs hp hq List.mem_cons_self List.mem_cons_self h
    exact ⟨rfl, List.tail_eq_of_cons_eq after⟩

omit admits in
theorem distanceText_starts (p : Option FieldPath) (rest : List Char) :
    ∃ c cs, (distanceText p).toList ++ ')' :: rest = c :: cs ∧ c.isDigit = false := by
  cases p with
  | none => exact ⟨')', rest, rfl, rfl⟩
  | some path =>
    refine ⟨',', "distance=".toList ++ path.text.toList ++ ')' :: rest, ?_, rfl⟩
    simp [distanceText]

omit admits in
theorem limitText_readsAs {m n : Option Nat} {p q : Option FieldPath}
    (h : (limitText m).toList ++ ((distanceText p).toList ++ ')' :: rest) =
      (limitText n).toList ++ ((distanceText q).toList ++ ')' :: rest')) :
    m = n ∧ (distanceText p).toList ++ ')' :: rest = (distanceText q).toList ++ ')' :: rest' := by
  cases m with
  | none =>
    cases n with
    | none => exact ⟨rfl, h⟩
    | some n => cases p <;> simp [limitText, distanceText] at h
  | some m =>
    cases n with
    | none => cases q <;> simp [limitText, distanceText] at h
    | some n =>
      obtain ⟨c, cs, begins, other⟩ := distanceText_starts p rest
      obtain ⟨c', cs', begins', other'⟩ := distanceText_starts q rest'
      have digits : (toString m).toList ++ c :: cs = (toString n).toList ++ c' :: cs' := by
        simpa [limitText, begins, begins'] using h
      rw [begins, begins']
      obtain ⟨rfl, after⟩ := digits_readsAs other other' digits
      exact ⟨rfl, after⟩

theorem NearestQuery.readsAs {q r : NearestQuery} (hq : q.legible) (hr : r.legible)
    (h : q.canonical.toList ++ ')' :: rest = r.canonical.toList ++ ')' :: rest') :
    q.Matches legible r ∧ rest = rest' := by
  rw [NearestQuery.legible, Bool.and_eq_true] at hq hr
  have parts (query : NearestQuery) (rest : List Char) : query.canonical.toList ++ ')' :: rest =
      query.field.canonical.toList ++ ',' :: (query.measure.name.toList ++ ',' ::
        ((canonicalArray (query.target.map Double.canonical)).toList ++
          ((limitText query.limit).toList ++ ((distanceText query.distanceField).toList ++ ')' :: rest)))) := by
    simp only [canonical, String.toList_append, List.append_assoc]
    rfl
  rw [parts, parts] at h
  obtain ⟨field, h⟩ := q.field.readsMatches admits r.field hq.1 hr.1 _ _ trivial trivial h
  have name_reads (m : DistanceMeasure) : DistanceMeasure.ofName? m.name = some m ∧ avoids [','] m.name := by
    cases m <;> decide +kernel
  obtain ⟨name, h⟩ := avoids_inj (name_reads _).2 (name_reads _).2 List.mem_cons_self List.mem_cons_self
    (List.tail_eq_of_cons_eq h)
  have measure : q.measure = r.measure := by
    rw [← Option.some_inj, ← (name_reads q.measure).1, name, (name_reads r.measure).1]
  obtain ⟨target, h⟩ := target_readsAs (List.tail_eq_of_cons_eq h)
  obtain ⟨limit, h⟩ := limitText_readsAs h
  obtain ⟨distance, after⟩ := distanceText_readsAs hq.2 hr.2 h
  exact ⟨⟨field, target, measure, limit, distance⟩, after⟩

/-- The text is at its end or goes on with another stage. -/
def AtStage (rest : List Char) : Prop := ∀ c ∈ rest.head?, c = '|'

omit admits in
theorem toList_grouping (g : Assignment) (gs : List Assignment) (rest : List Char) :
    (canonicalGrouping (g :: gs)).toList ++ ')' :: rest =
      ')' :: 'g' :: ("rouping(".toList ++ ((canonicalFields (g :: gs)).toList ++ ')' :: rest)) := by
  simp [canonicalGrouping]

omit admits in
/-- Whether there are groups is known from what follows the bracket behind the totals. -/
theorem grouping_readsAs {gs hs : List Assignment} (stop : AtStage rest) (stop' : AtStage rest')
    (h : (canonicalGrouping gs).toList ++ ')' :: rest = (canonicalGrouping hs).toList ++ ')' :: rest') :
    (canonicalFields gs).toList ++ ')' :: rest = (canonicalFields hs).toList ++ ')' :: rest' := by
  cases gs with
  | nil =>
    cases hs with
    | nil =>
      obtain rfl : rest = rest' := List.tail_eq_of_cons_eq (h : ')' :: rest = ')' :: rest')
      rfl
    | cons g gs =>
      rw [toList_grouping] at h
      obtain rfl : rest = _ := List.tail_eq_of_cons_eq (h : ')' :: rest = _)
      exact absurd (stop _ rfl) (by decide)
  | cons g gs =>
    cases hs with
    | nil =>
      rw [toList_grouping] at h
      obtain rfl : _ = rest' := List.tail_eq_of_cons_eq (h : _ = ')' :: rest')
      exact absurd (stop' _ rfl) (by decide)
    | cons g' gs' => simpa only [toList_grouping, List.cons.injEq, true_and, List.append_cancel_left_eq] using h

omit admits in
theorem grouping_starts (gs : List Assignment) (rest : List Char) :
    ∃ tail, (canonicalGrouping gs).toList ++ ')' :: rest = ')' :: tail := by
  cases gs with
  | nil => exact ⟨rest, rfl⟩
  | cons g gs => exact ⟨_, toList_grouping g gs rest⟩

theorem aggregate_readsAs {gs hs : List Assignment} {as bs : List Accumulator} (hg : gs.all (·.legible))
    (hh : hs.all (·.legible)) (ha : as.all (·.legible)) (hb : bs.all (·.legible)) (stop : AtStage rest)
    (stop' : AtStage rest') (h : (Step.aggregate gs as).canonicalArgs.toList ++ ')' :: rest =
      (Step.aggregate hs bs).canonicalArgs.toList ++ ')' :: rest') :
    (Step.aggregate gs as).Matches legible (.aggregate hs bs) ∧ rest = rest' := by
  obtain ⟨tail, begins⟩ := grouping_starts gs rest
  obtain ⟨tail', begins'⟩ := grouping_starts hs rest'
  rw [Step.canonicalArgs, Step.canonicalArgs, String.toList_append, String.toList_append, List.append_assoc,
    List.append_assoc, begins, begins'] at h
  obtain ⟨accumulators, rfl⟩ := accumulators_readAs admits ha hb h
  obtain ⟨groups, after⟩ :=
    assignments_readAs admits hg hh (grouping_readsAs stop stop' (begins.trans begins'.symm))
  exact ⟨.aggregate groups accumulators, after⟩

omit admits in
theorem Step.toList_canonical (s : Step) (rest : List Char) : (Stage.step s).canonical.toList ++ rest =
    s.name.toList ++ '(' :: (s.canonicalArgs.toList ++ ')' :: rest) := by
  simp [Stage.canonical, Stage.name]

theorem Step.readsAs {s t : Step} (hs : s.legible) (ht : t.legible) :
    ReadsAs (fun s => (Stage.step s).canonical.toList) (Matches legible) AtStage s t := by
  intro rest rest' stop stop' h
  have names (s : Step) : avoids ['('] s.name := by
    cases s <;> simp [avoids, name]
  simp only [Step.toList_canonical] at h
  obtain ⟨kind, h⟩ := avoids_inj (names s) (names t) List.mem_cons_self List.mem_cons_self h
  replace h := List.tail_eq_of_cons_eq h
  cases s with
  | filter c =>
    cases t with
    | filter d =>
      obtain ⟨matched, after⟩ := c.toExpr.readsMatches admits d.toExpr hs ht _ _ trivial trivial h
      exact ⟨.filter matched, List.tail_eq_of_cons_eq after⟩
    | _ => simp [name] at kind
  | sort ks =>
    cases t with
    | sort ls =>
      obtain ⟨matched, after⟩ := sortKeys_readAs admits hs ht h
      exact ⟨.sort matched, after⟩
    | _ => simp [name] at kind
  | limit m =>
    cases t with
    | limit n =>
      obtain ⟨rfl, after⟩ := digits_readsAs rfl rfl h
      exact ⟨.limit m, List.tail_eq_of_cons_eq after⟩
    | _ => simp [name] at kind
  | offset m =>
    cases t with
    | offset n =>
      obtain ⟨rfl, after⟩ := digits_readsAs rfl rfl h
      exact ⟨.offset m, List.tail_eq_of_cons_eq after⟩
    | _ => simp [name] at kind
  | addFields as =>
    cases t with
    | addFields bs =>
      obtain ⟨matched, after⟩ := assignments_readAs admits hs ht h
      exact ⟨.addFields matched, after⟩
    | _ => simp [name] at kind
  | select as =>
    cases t with
    | select bs =>
      obtain ⟨matched, after⟩ := assignments_readAs admits hs ht h
      exact ⟨.select matched, after⟩
    | _ => simp [name] at kind
  | distinct gs =>
    cases t with
    | distinct gs' =>
      obtain ⟨matched, after⟩ := assignments_readAs admits hs ht h
      exact ⟨.distinct matched, after⟩
    | _ => simp [name] at kind
  | aggregate gs as =>
    cases t with
    | aggregate gs' bs =>
      rw [Step.legible, Bool.and_eq_true] at hs ht
      exact aggregate_readsAs admits hs.1 ht.1 hs.2 ht.2 stop stop' h
    | _ => simp [name] at kind
  | findNearest q =>
    cases t with
    | findNearest r =>
      obtain ⟨matched, after⟩ := NearestQuery.readsAs admits hs ht h
      exact ⟨.findNearest matched, after⟩
    | _ => simp [name] at kind

theorem steps_readAs {ss ts : List Step} (hs : ss.all (·.legible)) (ht : ts.all (·.legible))
    (h : (ss.map fun s => (Stage.step s).canonical.toList).flatMap ('|' :: ·) =
      (ts.map fun t => (Stage.step t).canonical.toList).flatMap ('|' :: ·)) :
    List.Forall₂ (Step.Matches legible) ss ts := by
  have ends (steps : List Step) : AtStage ((steps.map fun s => (Stage.step s).canonical.toList).flatMap ('|' :: ·)) := by
    cases steps with
    | nil => simp [AtStage]
    | cons => exact fun _ same => (Option.some.inj same).symm
  induction ss generalizing ts with
  | nil =>
    cases ts with
    | nil => exact .nil
    | cons t ts => contradiction
  | cons s ss ih =>
    cases ts with
    | nil => contradiction
    | cons t ts =>
      rw [List.all_cons, Bool.and_eq_true] at hs ht
      simp only [List.map_cons, List.flatMap_cons, List.cons_append, List.cons.injEq, true_and] at h
      obtain ⟨first, others⟩ := s.readsAs admits hs.1 ht.1 _ _ (ends ss) (ends ts) h
      exact .cons first (ih hs.2 ht.2 others)

omit admits in
theorem documents_readAs {ks ls : List DocumentKey} (hk : ks.all (·.legible [',', ')']))
    (hl : ls.all (·.legible [',', ')']))
    (h : (",".intercalate (sortTexts (ks.map (·.text)))).toList ++ ')' :: rest =
      (",".intercalate (sortTexts (ls.map (·.text)))).toList ++ ')' :: rest') : ks.Perm ls ∧ rest = rest' := by
  rw [List.all_eq_true] at hk hl
  let stops (rest : List Char) : Prop := ∃ c tail, rest = c :: tail ∧ c ∈ [',', ')']
  have starts (key : DocumentKey) (member : key ∈ ks ++ ls) : ∃ c cs, key.text.toList = c :: cs ∧ c ≠ ')' := by
    have clear : key.legible [',', ')'] := (List.mem_append.mp member).elim (hk key) (hl key)
    obtain ⟨c, cs, begins, other⟩ := DocumentKey.text_starts clear
    exact ⟨c, cs, begins, by rintro rfl; simp at other⟩
  have members : ∀ j ∈ ks, ∀ k ∈ ls, ReadsAs (fun key : DocumentKey => key.text.toList) (· = ·) stops j k := by
    rintro j hmj k hmk _ _ ⟨c, tail, rfl, hc⟩ ⟨d, tail', rfl, hd⟩ h
    exact DocumentKey.readsAs (hk j hmj) (hl k hmk) hc hd h
  rw [sortTexts_map, sortTexts_map] at h
  obtain ⟨same, after⟩ := readsAs_listing (fun rest => ⟨',', rest, rfl, by decide⟩)
    (fun rest => ⟨')', rest, rfl, by decide⟩) starts members h
  rw [List.forall₂_eq_eq_eq] at same
  exact ⟨(inTextOrder_perm _ ks).symm.trans (same ▸ inTextOrder_perm _ ls), after⟩

omit admits in
theorem Source.readsAs {s t : Source} (hs : s.legible) (ht : t.legible)
    (h : (Stage.source s).canonical.toList ++ rest = (Stage.source t).canonical.toList ++ rest') :
    s.Matches t ∧ rest = rest' := by
  have text (s : Source) (rest : List Char) : (Stage.source s).canonical.toList ++ rest =
      s.name.toList ++ '(' :: (s.canonicalArgs.toList ++ ')' :: rest) := by
    simp [Stage.canonical, Stage.name]
  have names (s : Source) : avoids ['('] s.name := by
    cases s <;> simp [avoids, name]
  rw [text, text] at h
  obtain ⟨kind, h⟩ := avoids_inj (names s) (names t) List.mem_cons_self List.mem_cons_self h
  replace h := List.tail_eq_of_cons_eq h
  cases s with
  | collection path =>
    cases t with
    | collection path' =>
      obtain ⟨rfl, after⟩ := ResourcePath.readsAs hs ht List.mem_cons_self List.mem_cons_self h
      exact ⟨.same _, List.tail_eq_of_cons_eq after⟩
    | _ => simp [name] at kind
  | collectionGroup id =>
    cases t with
    | collectionGroup id' =>
      obtain ⟨rfl, after⟩ := avoids_inj hs ht List.mem_cons_self List.mem_cons_self h
      exact ⟨.same _, List.tail_eq_of_cons_eq after⟩
    | _ => simp [name] at kind
  | database =>
    cases t with
    | database => exact ⟨.same _, List.tail_eq_of_cons_eq (h : ')' :: rest = ')' :: rest')⟩
    | _ => simp [name] at kind
  | documents ks =>
    cases t with
    | documents ls =>
      obtain ⟨perm, after⟩ := documents_readAs hs ht h
      exact ⟨.documents perm, after⟩
    | _ => simp [name] at kind

theorem Pipeline.matches_of_sameCanonical {p q : Pipeline} (hp : p.legible) (hq : q.legible)
    (h : p.sameCanonical q) : p.source.Matches q.source ∧ List.Forall₂ (Step.Matches legible) p.steps q.steps := by
  rw [Pipeline.legible, Bool.and_eq_true] at hp hq
  have text (p : Pipeline) : p.canonical.toList = (Stage.source p.source).canonical.toList ++
      (p.steps.map fun s => (Stage.step s).canonical.toList).flatMap ('|' :: ·) := by
    rw [canonical, String.toList_intercalate, stages, List.map_cons, List.map_cons, List.map_map, List.map_map]
    exact intercalate_cons '|' _ _
  have same : p.canonical.toList = q.canonical.toList := congrArg String.toList (beq_iff_eq.mp h)
  rw [text, text] at same
  obtain ⟨source, steps⟩ := Source.readsAs hp.1 hq.1 same
  exact ⟨source, steps_readAs admits hp.2 hq.2 steps⟩

/-- For pipelines that their texts determine, one canonical text means one source and steps that match. -/
theorem Pipeline.sameCanonical_iff {p q : Pipeline} (hp : p.legible) (hq : q.legible) :
    p.sameCanonical q ↔ p.source.Matches q.source ∧ List.Forall₂ (Step.Matches legible) p.steps q.steps := by
  constructor
  · exact matches_of_sameCanonical admits hp hq
  · rintro ⟨source, steps⟩
    have respelled : p.Respelled q := ⟨source.respelled, steps.imp fun _ _ => Step.Matches.respelled⟩
    rw [sameCanonical, beq_iff_eq, respelled.canonical_eq]

end Steps
end DocQuery
