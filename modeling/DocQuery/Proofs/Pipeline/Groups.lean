import DocQuery.Proofs.Pipeline.Rows

/-! Groups and their totals. The texts that tell groups apart depend on the order in which group expressions
are listed; which rows share a text does not. -/
namespace DocQuery

/-- What a row has for a group expression, null where that is nothing. -/
def groupKey (rules : RegexRules) (row : Row) (group : Assignment) : Value :=
  (evaluate rules row group.expr).value?.getD .null

theorem readGroupKeys_value (rules : RegexRules) (row : Row) (groups : List Assignment) :
    (readGroupKeys rules row groups).value =
      if groups.any fun g => (evaluate rules row g.expr).isError then none
      else some (groups.map (groupKey rules row)) := by
  induction groups with
  | nil => rfl
  | cons g gs ih =>
    rw [List.any_cons]
    simp only [readGroupKeys, bind, pure, observe_value]
    split
    next e he => simp only [he, Outcome.isError, Bool.true_or, if_true]
    next o other =>
      have sound : (evaluate rules row g.expr).isError = false := by
        cases h : evaluate rules row g.expr with
        | error e => exact absurd h (other e)
        | _ => rfl
      simp only [sound, Bool.false_or, ih]
      split <;> rfl

/-- The outcome that a row gives a total. -/
def argument (rules : RegexRules) (row : Row) (a : Accumulator) : Option Outcome :=
  a.args.head?.map (evaluate rules row)

def contribution? (rules : RegexRules) (groups : List Assignment) (accumulators : List Accumulator) (row : Row) :
    Option Contribution :=
  (readGroupKeys rules row groups).value.map fun keys => ⟨keys, accumulators.map (argument rules row)⟩

theorem distinctRows_value (rules : RegexRules) (groups : List Assignment) (rows : List Row) :
    (distinctRows rules groups rows).value = (rows.foldl (fun seen row =>
      keepDistinct groups seen (row, (readGroupKeys rules row groups).value)) []).map (·.2) := by
  simp only [distinctRows, bind, pure, each_value, ← List.map_prod_left_eq_zip, List.foldl_map]

theorem aggregateRows_value (rules : RegexRules) (groups : List Assignment) (accumulators : List Accumulator)
    (rows : List Row) : (aggregateRows rules groups accumulators rows).value =
      ((rows.filterMap (contribution? rules groups accumulators)).foldl (collect accumulators)
        (initialBuckets groups accumulators)).map fun (_, bucket) => bucket.toRow groups accumulators := by
  have read (row : Row) : (readContribution rules groups accumulators row).value =
      contribution? rules groups accumulators row := by
    have arguments : (accumulators.map fun a => (readArgument rules row a).value) =
        accumulators.map (argument rules row) := by
      refine List.map_congr_left fun a _ => ?_
      unfold readArgument argument
      cases a.args <;> rfl
    simp only [readContribution, contribution?, bind, pure]
    split
    next none => rw [none]; rfl
    next keys some => simp only [some, each_value, arguments, Option.map_some]
  simp only [aggregateRows, bind, pure, each_value, read, List.filterMap_map]
  rfl

section Keyed

variable {α β : Type} {S : String → String → Prop} {V : α → β → Prop} {as : List (String × α)}
  {bs : List (String × β)} {k k' : String}

/-- Lists of related values under related keys, in one order. -/
abbrev Keyed (S : String → String → Prop) (V : α → β → Prop) : List (String × α) → List (String × β) → Prop :=
  List.Forall₂ fun e e' => S e.1 e'.1 ∧ V e.2 e'.2

theorem addNew_rel (unique : ∀ {k k' l l'}, S k k' → S l l' → (k = l ↔ k' = l')) (h : Keyed S V as bs)
    (key : S k k') {v : α} {w : β} (value : V v w) : Keyed S V (addNew as k v) (addNew bs k' w) := by
  have found : (Entries.find? k as).isSome = (Entries.find? k' bs).isSome := by
    induction h with
    | nil => rfl
    | @cons e e' _ _ first _ ih =>
      have same := unique first.1 key
      rw [Entries.find?, Entries.find?]
      by_cases here : e.1 = k
      · rw [if_pos here, if_pos (same.mp here)]
        rfl
      · rw [if_neg here, if_neg (mt same.mpr here)]
        exact ih
  have added : Keyed S V (as ++ [(k, v)]) (bs ++ [(k', w)]) :=
    List.rel_append h (.cons ⟨key, value⟩ .nil)
  unfold addNew
  cases left : Entries.find? k as <;> cases right : Entries.find? k' bs <;>
    simp only [left, right, Option.isSome_none, Option.isSome_some, reduceCtorEq] at found
  · exact added
  · exact h

theorem updateEntry_rel (unique : ∀ {k k' l l'}, S k k' → S l l' → (k = l ↔ k' = l')) (h : Keyed S V as bs)
    (key : S k k') {fresh : α} {fresh' : β} (start : V fresh fresh') {change : α → α} {change' : β → β}
    (step : ∀ v w, V v w → V (change v) (change' w)) :
    Keyed S V (updateEntry k fresh change as) (updateEntry k' fresh' change' bs) := by
  induction h with
  | nil => exact .cons ⟨key, step _ _ start⟩ .nil
  | @cons e e' _ _ first rest ih =>
    have same := unique first.1 key
    rw [updateEntry, updateEntry]
    by_cases here : e.1 = k
    · rw [if_pos here, if_pos (same.mp here)]
      exact .cons ⟨first.1, step _ _ first.2⟩ rest
    · rw [if_neg here, if_neg (mt same.mpr here)]
      exact .cons first ih

end Keyed

section Identity

variable {legible : DocumentKey → Prop} {before after exact : Bool} {rows rows' : List Row} {a a' b b' : Row}

/-- The text of a group tells its keys apart up to ties, where it tells apart the references in them. -/
theorem order_of_groupId {stops : List Char → Prop} (follows : Follows stops) (ends : stops [])
    (readable : ReadableBefore stops legible) {keys keys' : List Value}
    (clear : ∀ v ∈ keys, ∀ key ∈ v.references, legible key)
    (clear' : ∀ v ∈ keys', ∀ key ∈ v.references, legible key) (same : groupId keys = groupId keys') :
    List.Forall₂ (fun v w => v.order w = .eq) keys keys' := by
  have texts : (Value.array keys).form.spell ++ [] = (Value.array keys').form.spell ++ [] := by
    rw [← toList_canonical, ← toList_canonical, ← groupId, ← groupId, same]
  have references {vs : List Value} (h : ∀ v ∈ vs, ∀ key ∈ v.references, legible key) :
      ∀ key ∈ (Value.array vs).form.references, legible key := by
    intro key hk
    obtain ⟨v, hv, hk⟩ := mem_references_array.mp (formReferences_subset _ key hk)
    exact h v hv key hk
  have tie : (Value.array keys).order (.array keys') = .eq :=
    (Form.readsTies_before follows readable _ _ (references clear) (references clear') [] [] ends ends texts).1
  exact order_array.mp tie

theorem groupId_congr {keys keys' : List Value}
    (same : List.Forall₂ (fun v w => v.canonical = w.canonical) keys keys') : groupId keys = groupId keys' := by
  have texts : keys.map Value.canonical = keys'.map Value.canonical :=
    map_eq_of_forall₂ same fun _ _ _ h => h
  rw [groupId, groupId, Value.canonical, Value.canonical, canonicalItems_eq_map, canonicalItems_eq_map, texts]

/-- Groups are told apart by their keys one by one. -/
theorem groupId_eq_iff (readable : Readable legible) {keys keys' : List Value}
    (clear : ∀ v ∈ keys, ∀ key ∈ v.references, legible key)
    (clear' : ∀ v ∈ keys', ∀ key ∈ v.references, legible key) :
    groupId keys = groupId keys' ↔ List.Forall₂ (fun v w => v.canonical = w.canonical) keys keys' := by
  refine ⟨fun same => ?_, groupId_congr⟩
  have ties := order_of_groupId follows_closed (by simp [Closed])
    (fun j k hj hk rest rest' _ _ => readable j k hj hk rest rest') clear clear' same
  exact ties.imp fun v w tie => Value.canonical_congr tie

theorem groupKey_agrees (rules : RegexRules) (h : a.Agrees legible before b) {g g' : Assignment}
    (both : g.Matches legible g' ∧ g.settled before after g') :
    (groupKey rules a g).Agrees legible after (groupKey rules b g') :=
  getD_null (evaluate_agrees rules h g.expr g'.expr after both.1.2 both.2).value?_rel

/-- Lists of group expressions paired off as listed or, where the texts of references can be told apart,
in any order. -/
def GroupsPaired (legible : DocumentKey → Prop) (before after : Bool) (gs hs : List Assignment) : Prop :=
  AssignmentsPaired legible before after gs hs ∧
    (List.Forall₂ (fun a b => a.Matches legible b ∧ a.settled before after b) gs hs ∨ Readable legible)

/-- What a row has for groups, as text. -/
def rowGroup (rules : RegexRules) (groups : List Assignment) (row : Row) : String :=
  groupId (groups.map (groupKey rules row))

theorem rowGroup_congr (rules : RegexRules) {gs hs : List Assignment} (h : a.Agrees legible before b)
    (paired : List.Forall₂ (fun a b => a.Matches legible b ∧ a.settled before after b) gs hs) :
    rowGroup rules gs a = rowGroup rules hs b := by
  refine groupId_congr (forall₂_map_map.mpr (paired.imp fun g g' both => ?_))
  exact (groupKey_agrees rules h both).canonical_eq

/-- Two rows are of one group of the first list if they are of one group of the second. -/
theorem rowGroup_eq_iff (rules : RegexRules) {gs hs : List Assignment}
    (paired : GroupsPaired legible before after gs hs) (h : a.Agrees legible before b) (h' : a'.Agrees legible before b') :
    rowGroup rules gs a = rowGroup rules gs a' ↔ rowGroup rules hs b = rowGroup rules hs b' := by
  obtain ⟨⟨cs, related, order⟩, listed | readable⟩ := paired
  · rw [rowGroup_congr rules h listed, rowGroup_congr rules h' listed]
  · have perm : cs.Perm hs := by
      rcases order with rfl | ⟨_, perm⟩
      · exact .refl _
      · exact perm
    have turned : List.Forall₂ (fun c g : Assignment => g.Matches legible c ∧ g.settled before after c) cs gs :=
      related.flip
    have clear {r r' : Row} (h : r.Agrees legible before r') :
        (∀ v ∈ gs.map (groupKey rules r), ∀ key ∈ v.references, legible key) ∧
          ∀ v ∈ hs.map (groupKey rules r'), ∀ key ∈ v.references, legible key := by
      simp only [List.forall_mem_map]
      refine ⟨fun g hg => ?_, fun k hk => ?_⟩
      · obtain ⟨_, _, both⟩ := exists_of_forall₂ related hg
        exact (groupKey_agrees rules h both).clear
      · obtain ⟨_, _, both⟩ := exists_of_forall₂ turned (perm.mem_iff.mpr hk)
        exact (groupKey_agrees rules h both).symm.clear
    rw [rowGroup, rowGroup, rowGroup, rowGroup, groupId_eq_iff readable (clear h).1 (clear h').1,
      groupId_eq_iff readable (clear h).2 (clear h').2, forall₂_map_map, forall₂_map_map,
      List.forall₂_same, List.forall₂_same]
    constructor
    · intro same k hk
      obtain ⟨g, hg, both⟩ := exists_of_forall₂ turned (perm.mem_iff.mpr hk)
      rw [← (groupKey_agrees rules h both).canonical_eq, same g hg, (groupKey_agrees rules h' both).canonical_eq]
    · intro same g hg
      obtain ⟨k, hk, both⟩ := exists_of_forall₂ related hg
      rw [(groupKey_agrees rules h both).canonical_eq, same k (perm.mem_iff.mp hk),
        (groupKey_agrees rules h' both).canonical_eq]

theorem keyFields_eq (rules : RegexRules) (groups : List Assignment) (row : Row) :
    keyFields groups (groups.map (groupKey rules row)) = writeFields [] (groups.filterMap fun g =>
      (some (groupKey rules row g)).map (g.path, ·)) := by
  simp only [keyFields, List.zip_map', Option.map_some, List.filterMap_eq_map']

theorem keyFields_agree (rules : RegexRules) {gs hs : List Assignment} (h : a.Agrees legible before b)
    (paired : AssignmentsPaired legible before after gs hs) :
    FieldsAgree legible after (keyFields gs (gs.map (groupKey rules a)))
      (keyFields hs (hs.map (groupKey rules b))) := by
  rw [keyFields_eq, keyFields_eq]
  refine writeFields_paired .nil paired fun g g' both => ⟨both.1.1, .some ?_⟩
  exact groupKey_agrees rules h both

theorem readGroupKeys_rel (rules : RegexRules) {gs hs : List Assignment} (h : a.Agrees legible before b)
    (paired : AssignmentsPaired legible before after gs hs) :
    (readGroupKeys rules a gs).value = none ∧ (readGroupKeys rules b hs).value = none ∨
      (readGroupKeys rules a gs).value = some (gs.map (groupKey rules a)) ∧
        (readGroupKeys rules b hs).value = some (hs.map (groupKey rules b)) := by
  obtain ⟨cs, related, order⟩ := paired
  have perm : cs.Perm hs := by
    rcases order with rfl | ⟨_, perm⟩
    · exact .refl _
    · exact perm
  have failing : (gs.any fun g => (evaluate rules a g.expr).isError) =
      hs.any fun g => (evaluate rules b g.expr).isError := by
    rw [← perm.any_eq]
    exact any_congr related fun g c both =>
      (evaluate_agrees rules h g.expr c.expr after both.1.2 both.2).isError_eq
  rw [readGroupKeys_value, readGroupKeys_value, failing]
  split
  · exact .inl ⟨rfl, rfl⟩
  · exact .inr ⟨rfl, rfl⟩

/-- The texts that two runs write for one group. -/
def GroupTexts (legible : DocumentKey → Prop) (before : Bool) (rules : RegexRules) (gs hs : List Assignment)
    (k k' : String) : Prop :=
  ∃ a b : Row, a.Agrees legible before b ∧ k = rowGroup rules gs a ∧ k' = rowGroup rules hs b

theorem groupTexts_unique (rules : RegexRules) {gs hs : List Assignment}
    (paired : GroupsPaired legible before after gs hs) {k k' l l' : String}
    (hk : GroupTexts legible before rules gs hs k k')
    (hl : GroupTexts legible before rules gs hs l l') : k = l ↔ k' = l' := by
  obtain ⟨a, b, row, rfl, rfl⟩ := hk
  obtain ⟨a', b', row', rfl, rfl⟩ := hl
  exact rowGroup_eq_iff rules paired row row'

theorem distinctRows_agree (rules : RegexRules) {gs hs : List Assignment} (h : RowsAgree legible before rows rows')
    (paired : GroupsPaired legible before after gs hs) :
    RowsAgree legible after (distinctRows rules gs rows).value (distinctRows rules hs rows').value := by
  have step (seen seen' : List (String × Row))
      (agree : Keyed (GroupTexts legible before rules gs hs) (Row.Agrees legible after) seen seen') (a b : Row)
      (row : a.Agrees legible before b) :
      Keyed (GroupTexts legible before rules gs hs) (Row.Agrees legible after)
        (keepDistinct gs seen (a, (readGroupKeys rules a gs).value))
        (keepDistinct hs seen' (b, (readGroupKeys rules b hs).value)) := by
    rcases readGroupKeys_rel rules row paired.1 with ⟨left, right⟩ | ⟨left, right⟩
    · rw [left, right]
      exact agree
    · rw [left, right, keepDistinct, keepDistinct]
      refine addNew_rel (groupTexts_unique rules paired) agree ⟨a, b, row, rfl, rfl⟩ ?_
      exact row.withFields (keyFields_agree rules row paired.1)
  have seen := List.rel_foldl (fun seen seen' agree a b row => step seen seen' agree a b row) .nil h
  rw [distinctRows_value, distinctRows_value]
  exact forall₂_map_map.mpr (seen.imp fun _ _ entry => entry.2)

end Identity
end DocQuery
