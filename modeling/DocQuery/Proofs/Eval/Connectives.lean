import Mathlib.Data.Nat.Bits
import DocQuery.Proofs.Eval.Evaluate
import DocQuery.Regex.Library

/-! Connectives as three-valued logic. Of an operand they see its truth value, or that it has none; their own truth
value follows from those, and where they have none they fail as the leftmost operand without one does. -/
namespace DocQuery

namespace Outcome

/-- The truth value of an outcome, if it is one. -/
def truth? : Outcome → Option Bool
  | value (.boolean b) => some b
  | _ => none

/-- What a connective reports of an operand without a truth value: the error that it is, or that it is no boolean. -/
def truthFault (f : Builtin) : Outcome → EvalError
  | error e => e
  | _ => .notBoolean f

/-- The report on the leftmost operand without a truth value. -/
def firstFault? (f : Builtin) (os : List Outcome) : Option EvalError :=
  (os.find? fun o => o.truth?.isNone).map (truthFault f)

variable {f : Builtin} {o : Outcome} {os : List Outcome}

theorem truth_of_some (h : o.truth? = some b) : o.truth f = .ok b := by
  cases o with
  | value v =>
    cases v with
    | boolean => rw [truth, Option.some.inj h]
    | _ => contradiction
  | absent | error => contradiction

theorem truth_of_none (h : o.truth? = none) : o.truth f = .error (o.truthFault f) := by
  cases o with
  | value v => cases v <;> first | contradiction | rfl
  | absent | error => rfl

theorem firstFault?_cons_of_some (h : o.truth? = some b) : firstFault? f (o :: os) = firstFault? f os := by
  simp [firstFault?, h]

theorem firstFault?_cons_of_none (h : o.truth? = none) : firstFault? f (o :: os) = some (o.truthFault f) := by
  simp [firstFault?, h]

theorem firstFault?_eq_none_iff : firstFault? f os = none ↔ none ∉ os.map truth? := by
  simp [firstFault?]

theorem none_mem_of_firstFault? (h : firstFault? f os = some e) : none ∈ os.map truth? := by
  by_contra known
  rw [firstFault?_eq_none_iff.mpr known] at h
  contradiction

theorem firstFault?_eq_some (h : firstFault? f os = some e) : ∃ before o after, os = before ++ o :: after ∧
    (∀ x ∈ before, x.truth? ≠ none) ∧ o.truth? = none ∧ e = o.truthFault f := by
  obtain ⟨o, found, rfl⟩ := Option.map_eq_some_iff.mp h
  obtain ⟨unknown, before, after, rfl, known⟩ := List.find?_eq_some_iff_append.mp found
  refine ⟨before, o, after, rfl, fun x hx => ?_, Option.isNone_iff_eq_none.mp unknown, rfl⟩
  simpa [Option.isSome_iff_ne_none] using known x hx

end Outcome

namespace Connective

/-- A truth value that decides, whatever else there is. -/
def dominating (dominant : Bool) (ts : List (Option Bool)) : Option Bool :=
  if some dominant ∈ ts then some dominant else if none ∈ ts then none else some (!dominant)

/-- The truth value of a connective of operands with these truth values, where it has one. -/
def table : Connective → List (Option Bool) → Option Bool
  | and, ts => dominating false ts
  | or, ts => dominating true ts
  | xor, ts => if none ∈ ts then none else some (ts.count (some true)).bodd
  | not, [t] => t.map (!·)
  | not, _ => none

section Applications

variable {f : Builtin} {args : List Outcome}

/-- A fault from before the operands comes first. -/
theorem dominated_eq (dominant : Bool) (fault : Option EvalError) : dominated f dominant fault args =
    if some dominant ∈ args.map Outcome.truth? then .boolean dominant
    else (fault.or (Outcome.firstFault? f args)).elim (.boolean !dominant) .error := by
  induction args generalizing fault with
  | nil => cases fault <;> rfl
  | cons o rest ih =>
    rw [dominated]
    cases truth : o.truth? with
    | none =>
      -- The operand's own fault comes before those of the rest, and after the one that is there.
      simp only [Outcome.truth_of_none truth, Outcome.firstFault?_cons_of_none truth, ih, List.map_cons, truth,
        List.mem_cons, reduceCtorEq, false_or, Option.or_assoc, Option.some_or]
    | some b =>
      by_cases decides : b = dominant
      · simp only [Outcome.truth_of_some truth, List.map_cons, truth, List.mem_cons, decides, if_true, true_or]
      · simp only [Outcome.truth_of_some truth, Outcome.firstFault?_cons_of_some truth, ih, List.map_cons, truth,
          List.mem_cons, Option.some.injEq, if_neg decides, Ne.symm decides, false_or]

theorem parity_eq (odd : Bool) : parity f odd args = (Outcome.firstFault? f args).elim
    (.boolean (odd != ((args.map Outcome.truth?).count (some true)).bodd)) .error := by
  induction args generalizing odd with
  | nil => cases odd <;> rfl
  | cons o rest ih =>
    rw [parity]
    cases truth : o.truth? with
    | none =>
      simp only [Outcome.truth_of_none truth, Outcome.firstFault?_cons_of_none truth, Option.elim_some]
    | some b =>
      have counted : ((odd != b) != ((rest.map Outcome.truth?).count (some true)).bodd) =
          (odd != (((o :: rest).map Outcome.truth?).count (some true)).bodd) := by
        cases b <;> simp [truth, Nat.bodd_succ]
      simp only [Outcome.truth_of_some truth, Outcome.firstFault?_cons_of_some truth, ih, counted]

/-- What a connective comes to: the truth value of its table or, where that has none, the report on the leftmost operand
without a truth value. -/
inductive Settles (c : Connective) (args : List Outcome) : Outcome → Prop
  | truth {b : Bool} : c.table (args.map Outcome.truth?) = some b → Settles c args (.boolean b)
  | fault {e : EvalError} : c.table (args.map Outcome.truth?) = none →
      Outcome.firstFault? (.connective c) args = some e → Settles c args (.error e)

variable {c : Connective}

theorem settles_dominated {dominant : Bool} (rule : ∀ ts, c.table ts = dominating dominant ts) :
    c.Settles args (dominated (.connective c) dominant none args) := by
  rw [dominated_eq, Option.none_or]
  by_cases decided : some dominant ∈ args.map Outcome.truth?
  · rw [if_pos decided]
    exact .truth (by rw [rule, dominating, if_pos decided])
  · rw [if_neg decided]
    cases fault : Outcome.firstFault? (.connective c) args with
    | none =>
      have known := Outcome.firstFault?_eq_none_iff.mp fault
      exact .truth (by rw [rule, dominating, if_neg decided, if_neg known])
    | some e =>
      have unknown := Outcome.none_mem_of_firstFault? fault
      exact .fault (by rw [rule, dominating, if_neg decided, if_pos unknown]) fault

theorem settles_apply (single : c = not → args.length = 1) : c.Settles args (c.apply args) := by
  cases c with
  | and => exact settles_dominated fun _ => rfl
  | or => exact settles_dominated fun _ => rfl
  | xor =>
    rw [apply, parity_eq, Bool.false_bne]
    cases fault : Outcome.firstFault? (.connective xor) args with
    | none => exact .truth (if_neg (Outcome.firstFault?_eq_none_iff.mp fault))
    | some e => exact .fault (if_pos (Outcome.none_mem_of_firstFault? fault)) fault
  | not =>
    obtain ⟨o, rfl⟩ := List.length_eq_one_iff.mp (single rfl)
    rw [apply, negate]
    cases truth : o.truth? with
    | none =>
      rw [Outcome.truth_of_none truth]
      exact .fault (by simp [table, truth]) (Outcome.firstFault?_cons_of_none truth)
    | some b =>
      rw [Outcome.truth_of_some truth]
      exact .truth (by simp [table, truth])

theorem Settles.truth?_eq {o : Outcome} (h : c.Settles args o) : o.truth? = c.table (args.map Outcome.truth?) := by
  cases h with
  | truth known => exact known.symm
  | fault unknown => exact unknown.symm

theorem settles_of_admits (rules : RegexRules) (admitted : (Builtin.connective c).arity.admits args.length = true) :
    c.Settles args ((Builtin.connective c).apply rules args) := by
  rw [Builtin.apply, if_pos admitted]
  refine settles_apply ?_
  rintro rfl
  exact eq_of_beq admitted

end Applications

section Laws

variable {dominant : Bool} {ts us : List (Option Bool)} {c : Connective}

theorem dominating_perm (perm : ts.Perm us) : dominating dominant ts = dominating dominant us := by
  simp only [dominating, perm.mem_iff]

theorem table_perm (several : c ≠ not) (perm : ts.Perm us) : c.table ts = c.table us := by
  cases c with
  | and | or => exact dominating_perm perm
  | xor => simp only [table, perm.mem_iff, perm.count_eq]
  | not => contradiction

theorem dominating_nested (before after : List (Option Bool)) :
    dominating dominant (before ++ dominating dominant ts :: after) = dominating dominant (before ++ ts ++ after) := by
  by_cases decided : some dominant ∈ ts
  · simp [dominating, decided]
  · by_cases unknown : none ∈ ts
    · simp [dominating, decided, unknown]
    · simp [dominating, decided, unknown]

theorem table_nested (several : c ≠ not) (before after : List (Option Bool)) :
    c.table (before ++ c.table ts :: after) = c.table (before ++ ts ++ after) := by
  cases c with
  | and | or => exact dominating_nested before after
  | xor =>
    by_cases unknown : none ∈ ts
    · simp [table, unknown]
    · cases odd : (ts.count (some true)).bodd <;> simp [table, unknown, odd, Nat.bodd_add]
  | not => contradiction

/-- The opposite of what one truth value decides is what the other one decides of the opposites. -/
theorem dominating_opposite (dominant : Bool) :
    dominating (!dominant) (ts.map (·.map (!·))) = (dominating dominant ts).map (!·) := by
  have opposite : some (!dominant) ∈ ts.map (·.map (!·)) ↔ some dominant ∈ ts := by
    simp
  have unknown : none ∈ ts.map (·.map (!·)) ↔ none ∈ ts := by
    simp
  simp only [dominating, opposite, unknown]
  split
  · rfl
  · split <;> rfl

end Laws
end Connective

section Calls

/-- A call of a connective is settled by the outcomes of its operands. -/
theorem settles_call {e : Expr} {c : Connective} {args : List Expr} (call : e.application? = some (.connective c, args))
    (admitted : (Builtin.connective c).arity.admits args.length = true) (rules : RegexRules) (row : Row) :
    c.Settles (args.map (evaluate rules row)) (evaluate rules row e) := by
  rw [evaluate_application call]
  exact Connective.settles_of_admits rules (by rwa [List.length_map])

/-- Without a truth value it fails as the leftmost operand without one does. -/
theorem Connective.Settles.leftmost {c : Connective} {args : List Expr} {outcome : Expr → Outcome} {o : Outcome}
    (settles : c.Settles (args.map outcome) o) (unknown : o.truth? = none) :
    ∃ before a after, args = before ++ a :: after ∧ (∀ b ∈ before, (outcome b).truth? ≠ none) ∧
      (outcome a).truth? = none ∧ o = .error ((outcome a).truthFault (.connective c)) := by
  cases settles with
  | truth => contradiction
  | fault _ first =>
    obtain ⟨before, o, after, operands, known, fault, rfl⟩ := Outcome.firstFault?_eq_some first
    obtain ⟨before, rest, rfl, rfl, cut⟩ := List.map_eq_append_iff.mp operands
    obtain ⟨a, after, rfl, rfl, rfl⟩ := List.map_eq_cons_iff.mp cut
    exact ⟨before, a, after, rfl, fun b hb => known _ (List.mem_map_of_mem hb), fault, rfl⟩

theorem Connective.admits_several {c : Connective} (several : c ≠ not) {args : List Expr} (some : args ≠ []) :
    (Builtin.connective c).arity.admits args.length = true := by
  have positive := List.length_pos_iff.mpr some
  cases c <;> first | contradiction | exact decide_eq_true positive

/-- Connectives follow their tables, and without a truth value they fail as the leftmost operand without one does. So
the order of operands does not matter, nor whether calls of one connective are nested, and the opposite of a
conjunction is the disjunction of the opposites. -/
theorem connectives_three_valued (rules : RegexRules) (row : Row) :
    let outcome := evaluate rules row
    let truth (e : Expr) := (outcome e).truth?
    let calls (e : Expr) (c : Connective) (args : List Expr) := e.application? = some (.connective c, args)
    (∀ e c args, calls e c args → (Builtin.connective c).arity.admits args.length = true →
      truth e = c.table (args.map truth) ∧
        (truth e = none → ∃ before a after, args = before ++ a :: after ∧ (∀ b ∈ before, truth b ≠ none) ∧
          truth a = none ∧ outcome e = .error ((outcome a).truthFault (.connective c)))) ∧
    (∀ e e' c args args', c ≠ .not → args ≠ [] → calls e c args → calls e' c args' → args.Perm args' →
      truth e = truth e') ∧
    (∀ e e' inner c before args after, c ≠ .not → args ≠ [] → calls e c (before ++ inner :: after) →
      calls inner c args → calls e' c (before ++ args ++ after) → truth e = truth e') ∧
    ∀ e e' conjunction args (opposite : Expr → Expr), args ≠ [] → calls e .not [conjunction] →
      calls conjunction .and args → (∀ a ∈ args, calls (opposite a) .not [a]) → calls e' .or (args.map opposite) →
        truth e = truth e' := by
  intro outcome truth calls
  have settled {e c args} (call : calls e c args)
      (admitted : (Builtin.connective c).arity.admits args.length = true) : truth e = c.table (args.map truth) := by
    have follows := (settles_call call admitted rules row).truth?_eq
    rwa [List.map_map] at follows
  have settled_several {e c args} (several : c ≠ .not) (some : args ≠ []) (call : calls e c args) :
      truth e = c.table (args.map truth) := settled call (Connective.admits_several several some)
  refine ⟨?_, ?_, ?_, ?_⟩
  · intro e c args call admitted
    exact ⟨settled call admitted, (settles_call call admitted rules row).leftmost⟩
  · intro e e' c args args' several some call call' perm
    have some' : args' ≠ [] := fun none => some (List.perm_nil.mp (none ▸ perm))
    rw [settled_several several some call, settled_several several some' call']
    exact Connective.table_perm several (perm.map truth)
  · intro e e' inner c before args after several some call nested call'
    have some' : before ++ args ++ after ≠ [] := by simp [some]
    rw [settled_several several (by simp) call, settled_several several some' call', List.map_append, List.map_cons,
      settled_several several some nested, List.map_append, List.map_append]
    exact Connective.table_nested several _ _
  · intro e e' conjunction args opposite some call joined opposites call'
    have some' : args.map opposite ≠ [] := by simp [some]
    have turned : (args.map opposite).map truth = (args.map truth).map (·.map (!·)) := by
      rw [List.map_map, List.map_map]
      exact List.map_congr_left fun a ha => settled (opposites a ha) rfl
    rw [settled call rfl, settled_several (by decide) some' call', turned]
    refine Eq.trans ?_ (Connective.dominating_opposite false).symm
    rw [List.map_singleton, settled_several (by decide) some joined]
    rfl

/-- An absent operand has no truth value, and the last operand can still decide. -/
theorem connectives_three_valued_of_absent :
    let row : Row := .ofFields [("t", .boolean true), ("f", .boolean false), ("s", .string "yes")]
    let t : Expr := .field ⟨["t"]⟩
    let f : Expr := .field ⟨["f"]⟩
    let s : Expr := .field ⟨["s"]⟩
    let missing : Expr := .field ⟨["missing"]⟩
    let call (c : Connective) (args : List Expr) : Expr := .call (.connective c) args
    let outcome := evaluate 100 row
    let truth (e : Expr) := (outcome e).truth?
    (∃ before a after, [t, missing, s] = before ++ a :: after ∧ (∀ b ∈ before, truth b ≠ none) ∧ truth a = none ∧
        outcome (call .and [t, missing, s]) = .error ((outcome a).truthFault (.connective .and))) ∧
      truth (call .and [missing, f]) = some false ∧ truth (call .and [missing, f]) = truth (call .and [f, missing]) ∧
      truth (call .or [s, call .or [f, t]]) = truth (call .or [s, f, t]) ∧
      truth (call .not [call .and [t, f]]) = truth (call .or [call .not [t], call .not [f]]) := by
  intro row t f s missing call outcome truth
  obtain ⟨follows, perm, nested, opposite⟩ := connectives_three_valued 100 row
  have unknown : truth (call .and [t, missing, s]) = none := by decide +kernel
  have operands : [missing, f].map truth = [none, some false] := by decide +kernel
  have decided : truth (call .and [missing, f]) = Connective.and.table [none, some false] :=
    operands ▸ (follows _ .and [missing, f] rfl rfl).1
  refine ⟨(follows _ .and _ rfl rfl).2 unknown, decided, ?_, ?_, ?_⟩
  · exact perm _ _ .and _ _ (by decide) (by simp) rfl rfl (.swap f missing [])
  · exact nested _ _ _ .or [s] [f, t] [] (by decide) (by simp) rfl rfl rfl
  · exact opposite _ _ _ [t, f] (fun a => call .not [a]) (by simp) rfl rfl (fun _ _ => rfl) rfl

end Calls
end DocQuery
