import DocQuery.Proofs.Eval.Evaluate
import DocQuery.Proofs.Path

/-! Expressions that their canonical texts determine, up to the spelling of constants. Texts of expressions
end by themselves, so that they can be read inside longer texts. -/
namespace DocQuery

theorem Builtin.mem_all (f : Builtin) : f ∈ all := by
  cases f with
  | documentId => decide
  | time t =>
    cases t with
    | ofUnix unit | toUnix unit => cases unit <;> decide
    | _ => decide
  | relation x | inspection x | membership x | containment x | connective x | selection x | arithmetic x
  | text x | pattern x | collection x | vector x => cases x <;> decide

theorem Builtin.name_avoids (f : Builtin) : avoids [','] f.name := by
  cases f with
  | documentId => exact avoids_ofList rfl
  | time t =>
    cases t with
    | ofUnix unit | toUnix unit => cases unit <;> exact avoids_ofList rfl
    | _ => exact avoids_ofList rfl
  | relation x | inspection x | membership x | containment x | connective x | selection x | arithmetic x
  | text x | pattern x | collection x | vector x => cases x <;> exact avoids_ofList rfl

/-- Functions are found by their names, which hold no comma. -/
theorem Builtin.name_reads (f : Builtin) : ofName? f.name = some f ∧ avoids [','] f.name := by
  have table : ∀ f ∈ all, ofName? f.name = some f := by decide +kernel
  exact ⟨table f f.mem_all, f.name_avoids⟩

theorem Aggregation.name_reads (kind : Aggregation) : ofName? kind.name = some kind ∧ avoids [','] kind.name := by
  cases kind <;> decide +kernel

/-- The value is told apart by its text up to spelling: no map stands for a vector. -/
def Value.legible (v : Value) : Bool :=
  v.distinctKeys && v.unmarked && v.references.all (DocumentKey.legible [')'])

mutual

/-- Whether the text of an expression determines it, up to the spelling of constants. -/
def Expr.legible : Expr → Bool
  | .field path => path.legible [')']
  | .constant v => v.legible
  | .call _ args => argsLegible args
  | .condition _ args _ => argsLegible args
  | .list items => argsLegible items

def argsLegible : List Expr → Bool
  | [] => true
  | e :: es => e.legible && argsLegible es

end

theorem argsLegible_iff {args : List Expr} : argsLegible args ↔ ∀ e ∈ args, e.legible := by
  induction args with
  | nil => simp [argsLegible]
  | cons e es ih => simp [argsLegible, ih]

theorem canonicalArgs_eq_map (args : List Expr) : canonicalArgs args = args.map Expr.canonical := by
  induction args with
  | nil => rfl
  | cons e es ih => rw [canonicalArgs, ih, List.map_cons]

theorem DocumentKey.readable_legible : Readable (DocumentKey.legible [')'] ·) := by
  intro j k hj hk rest rest' h
  obtain ⟨same, after⟩ := readsAs hj hk List.mem_cons_self List.mem_cons_self h
  exact ⟨same, List.tail_eq_of_cons_eq after⟩

section Reading

variable {legible : DocumentKey → Prop} (admits : ∀ key : DocumentKey, key.legible [')'] → legible key)

include admits in
theorem Value.readsAs {v w : Value} (hv : v.legible) (hw : w.legible) {rest rest' : List Char}
    (h : v.canonical.toList ++ ')' :: rest = w.canonical.toList ++ ')' :: rest') :
    v.Agrees legible false w ∧ rest = rest' := by
  simp only [Value.legible, Bool.and_eq_true, List.all_eq_true] at hv hw
  rw [toList_canonical, toList_canonical] at h
  obtain ⟨tie, after⟩ := Form.readsTies DocumentKey.readable_legible v.form w.form
    (fun key hk => hv.2 key (formReferences_subset v key hk))
    (fun key hk => hw.2 key (formReferences_subset w key hk)) _ _ (closed_cons rfl _) (closed_cons rfl _) h
  have clear (key : DocumentKey) (hk : key ∈ v.references) : legible key := admits key (hv.2 key hk)
  exact ⟨.of_order tie hv.1.1 hw.1.1 hv.1.2 hw.1.2 clear, List.tail_eq_of_cons_eq after⟩

theorem toList_callText (name : String) (args : List Expr) : (callText name (canonicalArgs args)).toList =
    'f' :: 'n' :: '(' :: (name.toList ++ ',' :: '[' :: (commas (args.map (·.canonical.toList)) ++ [']', ')'])) := by
  have args : (",".intercalate (canonicalArgs args)).toList = commas (args.map (·.canonical.toList)) := by
    rw [toList_commas, canonicalArgs_eq_map, List.map_map]
    rfl
  simp [callText, ← args]

namespace Expr

theorem toList_field (path : FieldPath) :
    (field path).canonical.toList = 'f' :: 'l' :: 'd' :: '(' :: (path.text.toList ++ [')']) := by
  simp [canonical]

theorem toList_constant (v : Value) :
    (constant v).canonical.toList = 'c' :: 's' :: 't' :: '(' :: (v.canonical.toList ++ [')']) := by
  simp [canonical]

theorem toList_list (items : List Expr) : (list items).canonical.toList =
    'l' :: 'i' :: 's' :: 't' :: '(' :: '[' :: (commas (items.map (·.canonical.toList)) ++ [']', ')']) := by
  have items : (",".intercalate (canonicalArgs items)).toList = commas (items.map (·.canonical.toList)) := by
    rw [toList_commas, canonicalArgs_eq_map, List.map_map]
    rfl
  simp [canonical, ← items]

theorem canonical_application {e : Expr} (h : e.application? = some (f, args)) :
    e.canonical = callText f.name (canonicalArgs args) := by
  cases e <;> first | contradiction | (cases h; rfl)

theorem legible_application {e : Expr} (h : e.application? = some (f, args)) (he : e.legible) :
    ∀ e ∈ args, e.legible := by
  cases e <;> first | contradiction | (cases h; exact argsLegible_iff.mp he)

theorem canonical_starts (e : Expr) : ∃ c cs, e.canonical.toList = c :: cs ∧ c.isAlpha := by
  cases e with
  | field path => exact ⟨_, _, toList_field path, rfl⟩
  | constant v => exact ⟨_, _, toList_constant v, rfl⟩
  | call f args => exact ⟨_, _, toList_callText f.name args, rfl⟩
  | condition f args => exact ⟨_, _, toList_callText f.name args, rfl⟩
  | list items => exact ⟨_, _, toList_list items, rfl⟩

/-- The expression is told apart from others by its text, whatever follows. -/
def ReadsMatches (legible : DocumentKey → Prop) (e : Expr) : Prop :=
  ∀ e' : Expr, e.legible → e'.legible →
    ReadsAs (·.canonical.toList) (Matches legible) (fun _ => True) e e'

theorem readsAs_args {as bs : List Expr} (ih : ∀ e ∈ as, e.ReadsMatches legible) (ha : ∀ e ∈ as, e.legible)
    (hb : ∀ e ∈ bs, e.legible) {rest rest' : List Char}
    (h : commas (as.map (·.canonical.toList)) ++ ']' :: rest = commas (bs.map (·.canonical.toList)) ++ ']' :: rest') :
    List.Forall₂ (Matches legible) as bs ∧ rest = rest' := by
  have members : ∀ e ∈ as, ∀ e' ∈ bs, ReadsAs (·.canonical.toList) (Matches legible) (fun _ => True) e e' :=
    fun e he e' he' => ih e he e' (ha e he) (hb e' he')
  refine readsAs_commas ?_ ?_ (by decide) (fun e _ => ?_) members rest rest' h
  · exact fun _ => trivial
  · exact fun _ => trivial
  · obtain ⟨c, cs, begins, letter⟩ := e.canonical_starts
    exact ⟨c, cs, begins, by rintro rfl; contradiction⟩

/-- A call is read as its name and its arguments. -/
theorem readsAs_call {f g : String} {as bs : List Expr} (hf : avoids [','] f) (hg : avoids [','] g)
    (ih : ∀ e ∈ as, e.ReadsMatches legible) (ha : ∀ e ∈ as, e.legible) (hb : ∀ e ∈ bs, e.legible)
    {rest rest' : List Char} (h : (callText f (canonicalArgs as)).toList ++ rest =
      (callText g (canonicalArgs bs)).toList ++ rest') :
    f = g ∧ List.Forall₂ (Matches legible) as bs ∧ rest = rest' := by
  simp only [toList_callText, List.cons_append, List.append_assoc, List.nil_append, List.cons.injEq, true_and] at h
  obtain ⟨name, args⟩ := avoids_inj hf hg List.mem_cons_self List.mem_cons_self h
  simp only [List.cons.injEq, true_and] at args
  obtain ⟨matched, after⟩ := readsAs_args ih ha hb args
  exact ⟨name, matched, List.tail_eq_of_cons_eq after⟩

theorem readsAs_application {e e' : Expr} (he : e.application? = some (f, as))
    (he' : e'.application? = some (g, bs)) (ih : ∀ e ∈ as, e.ReadsMatches legible) (ha : e.legible)
    (hb : e'.legible) {rest rest' : List Char} (h : e.canonical.toList ++ rest = e'.canonical.toList ++ rest') :
    e.Matches legible e' ∧ rest = rest' := by
  rw [canonical_application he, canonical_application he'] at h
  obtain ⟨name, args, after⟩ := readsAs_call f.name_reads.2 g.name_reads.2 ih (legible_application he ha)
    (legible_application he' hb) h
  have same : f = g := by
    rw [← Option.some_inj, ← f.name_reads.1, name, g.name_reads.1]
  exact ⟨.application he (same ▸ he') args, after⟩

include admits in
theorem readsMatches (e : Expr) : e.ReadsMatches legible := by
  have application {e : Expr} {f : Builtin} {as : List Expr} (he : e.application? = some (f, as))
      (ih : ∀ e ∈ as, e.ReadsMatches legible) : e.ReadsMatches legible := by
    intro e' ha hb rest rest' _ _ h
    cases e' with
    | call g bs => exact readsAs_application he rfl ih ha hb h
    | condition g bs => exact readsAs_application he rfl ih ha hb h
    | _ =>
      simp only [canonical_application he, toList_callText, toList_field, toList_constant, toList_list] at h
      simp at h
  induction e with
  | field path =>
    intro e' ha hb rest rest' _ _ h
    cases e' with
    | field path' =>
      simp only [toList_field, List.cons_append, List.append_assoc, List.nil_append, List.cons.injEq, true_and] at h
      obtain ⟨rfl, after⟩ := FieldPath.readsAs ha hb List.mem_cons_self List.mem_cons_self h
      exact ⟨.field path, List.tail_eq_of_cons_eq after⟩
    | _ => simp [canonical, toList_callText] at h
  | constant v =>
    intro e' ha hb rest rest' _ _ h
    cases e' with
    | constant w =>
      simp only [toList_constant, List.cons_append, List.append_assoc, List.nil_append, List.cons.injEq,
        true_and] at h
      obtain ⟨agree, after⟩ := Value.readsAs admits ha hb h
      exact ⟨.constant agree, after⟩
    | _ => simp [canonical, toList_callText] at h
  | call f args ih => exact application rfl ih
  | condition f args _ ih => exact application rfl ih
  | list items ih =>
    intro e' ha hb rest rest' _ _ h
    cases e' with
    | list items' =>
      simp only [toList_list, List.cons_append, List.append_assoc, List.nil_append, List.cons.injEq, true_and] at h
      obtain ⟨matched, after⟩ := readsAs_args ih (argsLegible_iff.mp ha) (argsLegible_iff.mp hb) h
      exact ⟨.list matched, List.tail_eq_of_cons_eq after⟩
    | _ => simp [canonical, toList_callText] at h

end Expr
end Reading
end DocQuery
