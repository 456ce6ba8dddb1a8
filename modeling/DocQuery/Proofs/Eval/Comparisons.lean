import DocQuery.Proofs.Eval.Containment
import DocQuery.Proofs.Eval.Faces

/-! Functions that compare their operands, look for them or inspect them. Of an admissible number of operands they make
a truth value, or hand on the error of one of them, and some of them say the opposite of others. -/
namespace DocQuery

namespace Outcome

/-- A truth value or an error, and nothing else. -/
inductive Decided : Outcome → Prop
  | boolean (b : Bool) : Decided (.boolean b)
  | error (e : EvalError) : Decided (.error e)

theorem Decided.eq_boolean {o : Outcome} (decided : o.Decided) (sound : o.isError = false) :
    ∃ b, o = .boolean b := by
  cases decided with
  | boolean b => exact ⟨b, rfl⟩
  | error e => contradiction

/-- Outcomes that are the same error or opposite truth values. -/
inductive Negated : Outcome → Outcome → Prop
  | error (e : EvalError) : Negated (.error e) (.error e)
  | boolean (b : Bool) : Negated (.boolean b) (.boolean (!b))

theorem isError_iff {o : Outcome} : o.isError = true ↔ ∃ e, o.error? = some e := by
  cases o <;> simp [isError, error?]

theorem error?_eq_some_iff {o : Outcome} {e : EvalError} : o.error? = some e ↔ o = .error e := by
  cases o <;> simp [error?]

end Outcome

namespace Builtin

def isComparison : Builtin → Bool
  | relation _ | inspection _ | membership _ | containment _ => true
  | _ => false

/-- What a comparison makes of operands of an admissible number. -/
inductive Compares : Builtin → List Outcome → Outcome → Prop
  | relation (r : Relation) (a b : Outcome) : Compares (.relation r) [a, b] (r.apply a b)
  | inspection (i : Inspection) (o : Outcome) : Compares (.inspection i) [o] (i.apply o)
  | membership (m : Membership) (search : Outcome) (rest : List Outcome) :
      Compares (.membership m) (search :: rest) (m.apply search rest)
  | element (array wanted : Outcome) : Compares (.containment .element) [array, wanted] (Containment.inArray array wanted)
  | several (c : Containment) (array : Outcome) (rest : List Outcome) (plural : c ≠ .element) :
      Compares (.containment c) (array :: rest) (c.severalInArray array rest)

variable {f g : Builtin} {args : List Outcome} {o : Outcome}

theorem compares_of_admits (rules : RegexRules) (comparison : f.isComparison = true)
    (admitted : f.arity.admits args.length = true) : f.Compares args (f.apply rules args) := by
  rw [apply, if_pos admitted]
  cases f with
  | relation r =>
    obtain ⟨a, b, rfl⟩ := List.length_eq_two.mp (eq_of_beq admitted)
    exact .relation r a b
  | inspection i =>
    obtain ⟨o, rfl⟩ := List.length_eq_one_iff.mp (eq_of_beq admitted)
    exact .inspection i o
  | membership m =>
    cases args with
    | nil => contradiction
    | cons search rest => exact .membership m search rest
  | containment c =>
    cases c with
    | element =>
      obtain ⟨array, wanted, rfl⟩ := List.length_eq_two.mp (eq_of_beq admitted)
      exact .element array wanted
    | all | any =>
      cases args with
      | nil => contradiction
      | cons array rest => exact .several _ array rest (by decide)
  | _ => contradiction

/-- The error of a comparison is that of the operand that comes first in the order in which they are looked at. -/
theorem Compares.error?_eq (h : f.Compares args o) :
    ∃ os : List Outcome, os.Perm args ∧ o.error? = os.findSome? Outcome.error? := by
  have last (first : Outcome) (rest : List Outcome) :
      (rest.findSome? Outcome.error?).or first.error? = (rest ++ [first]).findSome? Outcome.error? := by
    rw [List.findSome?_append]
    cases first <;> rfl
  cases h with
  | relation r a b =>
    refine ⟨[a, b], .refl _, ?_⟩
    rw [r.error?_apply]
    cases a <;> cases b <;> rfl
  | inspection i o =>
    refine ⟨[o], .refl _, ?_⟩
    rw [i.error?_apply]
    cases o <;> rfl
  | membership m search rest =>
    exact ⟨rest ++ [search], List.perm_append_singleton search rest, (m.error?_apply search rest).trans (last search rest)⟩
  | element array wanted =>
    refine ⟨[array, wanted], .refl _, ?_⟩
    rw [Containment.error?_inArray]
    cases array <;> cases wanted <;> rfl
  | several c array rest =>
    exact ⟨rest ++ [array], List.perm_append_singleton array rest,
      (c.error?_severalInArray array rest).trans (last array rest)⟩

theorem Compares.exists_of_error {e : EvalError} (h : f.Compares args o) (failed : o = .error e) :
    .error e ∈ args := by
  obtain ⟨os, same, first⟩ := h.error?_eq
  rw [failed] at first
  obtain ⟨a, ha, found⟩ := List.exists_of_findSome?_eq_some first.symm
  rw [Outcome.error?_eq_some_iff] at found
  exact same.mem_iff.mp (found ▸ ha)

theorem Compares.isError_iff (h : f.Compares args o) : o.isError = true ↔ ∃ a ∈ args, a.isError = true := by
  obtain ⟨os, same, first⟩ := h.error?_eq
  simp only [Outcome.isError_iff, first, ← same.mem_iff, ← Option.isSome_iff_exists, List.findSome?_isSome_iff]

theorem Compares.decided (h : f.Compares args o) : o.Decided := by
  cases h with
  | relation r a b => cases a <;> cases b <;> constructor
  | inspection i o => cases o <;> constructor
  | membership m search rest =>
    unfold Membership.apply
    cases candidates rest with
    | error e => exact .error e
    | ok items => cases search <;> cases items <;> constructor
  | element array wanted =>
    cases array with
    | value v => cases v <;> cases wanted <;> constructor
    | _ => cases wanted <;> constructor
  | several c array rest =>
    unfold Containment.severalInArray
    cases candidates rest with
    | error e => exact .error e
    | ok items =>
      cases array with
      | value v => cases v <;> cases items <;> constructor
      | _ => cases items <;> constructor

/-- Comparisons of which one says the opposite of the other. -/
inductive Opposite : Builtin → Builtin → Prop
  | equality : Opposite (.relation .eq) (.relation .neq)
  | membership : Opposite (.membership .eqAny) (.membership .notEqAny)
  | presence : Opposite (.inspection .exists) (.inspection .isAbsent)

theorem Opposite.isComparison (opposite : f.Opposite g) : f.isComparison = true ∧ g.isComparison = true := by
  cases opposite <;> exact ⟨rfl, rfl⟩

theorem Opposite.arity_eq (opposite : f.Opposite g) : f.arity = g.arity := by
  cases opposite <;> rfl

theorem Opposite.negated {x y : Outcome} (opposite : f.Opposite g) (first : f.Compares args x)
    (second : g.Compares args y) : x.Negated y := by
  cases opposite with
  | equality =>
    cases first with
    | relation _ a b =>
      cases second
      cases a <;> cases b <;> constructor
  | membership =>
    cases first with
    | membership _ search rest =>
      cases second
      unfold Membership.apply
      cases candidates rest with
      | error e => exact .error e
      | ok items =>
        cases search with
        | error e => exact .error e
        | absent => exact .boolean false
        | value v =>
          cases items with
          | none => exact .boolean false
          | some items =>
            change Outcome.Negated (.boolean ((items.any fun c => v.equals c) != false))
              (.boolean ((items.any fun c => v.equals c) != true))
            cases items.any fun c => v.equals c with
            | false => exact .boolean false
            | true => exact .boolean true
  | presence =>
    cases first with
    | inspection _ o =>
      cases second
      cases o <;> constructor

theorem Opposite.apply_eq (opposite : f.Opposite g) (rules : RegexRules) (admitted : f.arity.admits args.length = true)
    (sound : ∀ o ∈ args, o.isError = false) :
    ∃ b, f.apply rules args = .boolean b ∧ g.apply rules args = .boolean (!b) := by
  have first := compares_of_admits rules opposite.isComparison.1 admitted
  have second := compares_of_admits rules opposite.isComparison.2 (opposite.arity_eq ▸ admitted)
  have negated := opposite.negated first second
  have no_error := first.isError_iff
  generalize f.apply rules args = x at negated no_error ⊢
  generalize g.apply rules args = y at negated ⊢
  cases negated with
  | boolean b => exact ⟨b, rfl, rfl⟩
  | error e =>
    obtain ⟨a, ha, failed⟩ := no_error.mp rfl
    rw [sound a ha] at failed
    contradiction

end Builtin

/-- With several candidates, a value is looked for by comparing it with each of them. -/
theorem Membership.eqAny_apply {search : Outcome} {args : List Outcome} (several : 2 ≤ args.length)
    (sound : search.isError = false) (found : ∀ o ∈ args, o.isError = false) :
    eqAny.apply search args = .boolean (args.any fun o => (Relation.eq.apply search o).isTrue) := by
  unfold apply
  rw [candidates_of_sound several found]
  cases search with
  | error e => contradiction
  | absent =>
    have none_found : (args.any fun o => (Relation.eq.apply .absent o).isTrue) = false :=
      List.any_eq_false.mpr fun o _ => by cases o <;> exact Bool.false_ne_true
    rw [none_found]
    rfl
  | value v =>
    have tests : ((args.filterMap Outcome.value?).any fun c => v.equals c) =
        args.any fun o => (Relation.eq.apply (.value v) o).isTrue := by
      rw [List.any_filterMap]
      refine congrArg args.any (funext fun o => ?_)
      cases o <;> rfl
    rw [← tests]
    exact congrArg Outcome.boolean (Bool.bne_false _)

section Calls

/-- Comparisons have no errors of their own and nothing but truth values otherwise. Where no operand fails, those that
say the opposite of one another do so of all operands, and looking for a value among several candidates comes to
comparing it with each. -/
theorem comparisons_of_operands (rules : RegexRules) (row : Row) :
    let outcome := evaluate rules row
    (∀ (e : Expr) (f : Builtin) (args : List Expr), e.application? = some (f, args) → f.isComparison = true →
      f.arity.admits args.length = true →
        ((outcome e).isError = true ↔ ∃ a ∈ args, (outcome a).isError = true) ∧
          (∀ err, outcome e = .error err → ∃ a ∈ args, outcome a = .error err) ∧
          ((outcome e).isError = false → ∃ b, outcome e = .boolean b)) ∧
    (∀ (e e' : Expr) (f g : Builtin) (args : List Expr), f.Opposite g → e.application? = some (f, args) →
      e'.application? = some (g, args) → f.arity.admits args.length = true →
        (∀ a ∈ args, (outcome a).isError = false) →
          ∃ b, outcome e = .boolean b ∧ outcome e' = .boolean (!b)) ∧
    (∀ (e search : Expr) (wanted : List Expr) (single : Expr → Expr),
      e.application? = some (.membership .eqAny, search :: wanted) →
      (∀ w ∈ wanted, (single w).application? = some (.relation .eq, [search, w])) → 2 ≤ wanted.length →
        (∀ a ∈ search :: wanted, (outcome a).isError = false) →
          outcome e = .boolean (wanted.any fun w => (outcome (single w)).isTrue)) := by
  intro outcome
  refine ⟨?_, ?_, ?_⟩
  · intro e f args call comparison admitted
    have compares : f.Compares (args.map outcome) (outcome e) := by
      simp only [outcome, evaluate_application call]
      exact Builtin.compares_of_admits rules comparison (by rwa [List.length_map])
    refine ⟨?_, fun err failed => List.mem_map.mp (compares.exists_of_error failed), compares.decided.eq_boolean⟩
    simpa using compares.isError_iff
  · intro e e' f g args opposite call call' admitted sound
    simp only [outcome, evaluate_application call, evaluate_application call']
    exact opposite.apply_eq rules (by rwa [List.length_map]) (List.forall_mem_map.mpr sound)
  · intro e search wanted single call calls several sound
    obtain ⟨search_sound, wanted_sound⟩ := List.forall_mem_cons.mp sound
    have one : ∀ w ∈ wanted, outcome (single w) = Relation.eq.apply (outcome search) (outcome w) := by
      intro w hw
      simp only [outcome, evaluate_application (calls w hw)]
      rfl
    have tests : (wanted.any fun w => (outcome (single w)).isTrue) =
        (wanted.map outcome).any fun o => (Relation.eq.apply (outcome search) o).isTrue := by
      rw [List.any_map]
      exact any_congr_mem fun w hw => congrArg Outcome.isTrue (one w hw)
    have applied : outcome e = Membership.eqAny.apply (outcome search) (wanted.map outcome) := by
      simp only [outcome, evaluate_application call]
      exact if_pos (by simp [Builtin.arity, Arity.admits]; omega)
    rw [applied, tests]
    exact Membership.eqAny_apply (by rwa [List.length_map]) search_sound (List.forall_mem_map.mpr wanted_sound)

/-- An absent operand differs from all others, but does not hide that another one fails. -/
theorem comparisons_of_absent_operand :
    let row : Row := .ofFields [("n", .integer 1)]
    let n : Expr := .field ⟨["n"]⟩
    let missing : Expr := .field ⟨["missing"]⟩
    let quotient : Expr := .call (.arithmetic .divide) [n, .constant (.integer 0)]
    let one : Expr := .constant (.double (.ofBits 0x3ff0000000000000))
    let equal (a b : Expr) : Expr := .condition (.relation .eq) [a, b] rfl
    let outcome := evaluate 100 row
    (outcome (.condition (.relation .gt) [missing, quotient] rfl)).isError = true ∧
      (∀ a ∈ [missing, n], (outcome a).isError = false) ∧ outcome (equal missing n) = .boolean false ∧
      outcome (.call (.relation .neq) [missing, n]) = .boolean true ∧
      (∀ a ∈ [n, missing, one], (outcome a).isError = false) ∧
      outcome (.call (.membership .eqAny) [n, missing, one]) = .boolean true := by
  intro row n missing quotient one equal outcome
  obtain ⟨sound, opposite, several⟩ := comparisons_of_operands 100 row
  have failing : ∃ a ∈ [missing, quotient], (outcome a).isError = true := ⟨quotient, by simp, by decide +kernel⟩
  have present : ∀ a ∈ [missing, n], (outcome a).isError = false := by decide +kernel
  have candidates_present : ∀ a ∈ [n, missing, one], (outcome a).isError = false := by decide +kernel
  obtain ⟨b, eq, neq⟩ := opposite (equal missing n) (.call (.relation .neq) [missing, n]) _ _ [missing, n]
    .equality rfl rfl rfl present
  have different : outcome (equal missing n) = .boolean false := rfl
  obtain rfl : b = false := by simpa [Outcome.boolean] using eq.symm.trans different
  have found := several (.call (.membership .eqAny) [n, missing, one]) n [missing, one] (equal n) rfl
    (fun _ _ => rfl) (Nat.le_refl 2) candidates_present
  have tests : ([missing, one].any fun w => (outcome (equal n w)).isTrue) = true := by decide +kernel
  rw [tests] at found
  exact ⟨(sound _ _ _ rfl rfl rfl).1.mpr failing, present, different, neq, candidates_present, found⟩

end Calls
end DocQuery
