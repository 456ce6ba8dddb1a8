import DocQuery.Proofs.Eval.Comparisons
import DocQuery.Proofs.Expr

/-! The functions that are known to yield booleans. On any operands, of any number, they come to a truth value or an
error, and no other function does so on all operands. -/
namespace DocQuery

theorem Outcome.decided_iff {o : Outcome} : o.Decided ↔ (isBoolean o || o.isError) = true := by
  constructor
  · intro decided
    cases decided <;> rfl
  · intro known
    cases o with
    | error e => exact .error e
    | absent => contradiction
    | value v => cases v <;> first | contradiction | exact .boolean _

section Functions

variable {f : Builtin} {o : Outcome} {args : List Outcome}

/-- What is read before a truth value comes of it can only fail. -/
theorem decided_bind {x : Except EvalError α} {next : α → Except EvalError Value}
    (decided : ∀ a, (Outcome.ofExcept (next a)).Decided) : (Outcome.ofExcept (x >>= next)).Decided := by
  cases x with
  | ok a => exact decided a
  | error e => exact .error e

namespace Connective

theorem dominated_decided (dominant : Bool) (fault : Option EvalError) :
    (dominated f dominant fault args).Decided := by
  induction args generalizing fault with
  | nil =>
    cases fault with
    | none => exact .boolean _
    | some e => exact .error e
  | cons o rest ih =>
    rw [dominated]
    cases o.truth f with
    | error e => exact ih _
    | ok b =>
      by_cases decides : b = dominant
      · simp only [if_pos decides]
        exact .boolean dominant
      · simp only [if_neg decides]
        exact ih fault

theorem parity_decided (odd : Bool) : (parity f odd args).Decided := by
  induction args generalizing odd with
  | nil => exact .boolean odd
  | cons o rest ih =>
    rw [parity]
    cases o.truth f with
    | error e => exact .error e
    | ok b => exact ih _

theorem apply_decided (c : Connective) (args : List Outcome) : (c.apply args).Decided := by
  cases c with
  | and | or => exact dominated_decided _ _
  | xor => exact parity_decided false
  | not =>
    match args with
    | [] | _ :: _ :: _ => exact .error _
    | [o] =>
      rw [apply, negate]
      cases o.truth (.connective .not) with
      | error e => exact .error e
      | ok b => exact .boolean _

end Connective

theorem TextFunction.search_decided (found : List Char → List Char → Bool) (text needle : Outcome) :
    (Outcome.ofExcept (search f found text needle)).Decided :=
  decided_bind fun _ => decided_bind fun _ => .boolean _

theorem PatternTest.apply_decided (rules : RegexRules) (p : PatternTest) (text pattern : Outcome) :
    (Outcome.ofExcept (p.apply rules text pattern)).Decided := by
  refine decided_bind fun s => decided_bind fun t => ?_
  cases Pattern.compile rules p.kind t with
  | ok compiled => exact .boolean _
  | error fault => exact .error _

theorem TextFunction.apply_decided {t : TextFunction} (predicate : (Builtin.text t).isPredicate = true)
    (args : List Outcome) : (t.apply args).Decided := by
  cases t with
  | contains | startsWith | endsWith =>
    match args with
    | [text, needle] => exact search_decided _ text needle
    | [] | [_] | _ :: _ :: _ :: _ => exact .error _
  | _ => contradiction

theorem Selection.apply_decided {s : Selection} (predicate : (Builtin.selection s).isPredicate = true)
    (args : List Outcome) : (s.apply args).Decided := by
  cases s with
  | isError =>
    match args with
    | [o] => exact .boolean _
    | [] | _ :: _ :: _ => exact .error _
  | _ => contradiction

theorem Builtin.apply_decided (predicate : f.isPredicate = true) (rules : RegexRules) (args : List Outcome) :
    (f.apply rules args).Decided := by
  by_cases admitted : f.arity.admits args.length = true
  case neg =>
    rw [apply, if_neg admitted]
    exact .error _
  case pos =>
    cases f with
    | relation | inspection | membership | containment => exact (compares_of_admits rules rfl admitted).decided
    | connective c =>
      rw [apply, if_pos admitted]
      exact c.apply_decided args
    | selection s =>
      rw [apply, if_pos admitted]
      exact s.apply_decided predicate args
    | text t =>
      rw [apply, if_pos admitted]
      exact t.apply_decided predicate args
    | pattern p =>
      rw [apply, if_pos admitted]
      obtain ⟨text, pattern, rfl⟩ := List.length_eq_two.mp (eq_of_beq admitted)
      exact p.apply_decided rules text pattern
    | _ => contradiction

namespace Builtin

/-- Operands of which a function that is no predicate makes something else than a truth value. -/
def revealingOperands : Builtin → List Outcome
  | selection .ifError => [.value .null, .absent]
  | selection .cond => [.absent, .absent, .value .null]
  | selection _ => [.absent]
  | arithmetic _ => [one, one]
  | text .substr => [blank, one]
  | text .replaceFirst | text .replaceAll => [blank, blank, blank]
  | text _ => [blank]
  | collection .arrayLength | collection .arrayReverse | collection .arrayConcat => [ones]
  | collection .arrayGet => [ones, .value (.integer 0)]
  | collection .map => []
  | collection .mapMerge => [.value (.map [])]
  | collection _ => [.value (.map []), blank]
  | vector .length => [unit]
  | vector _ => [unit, unit]
  | time (.ofUnix _) => [one]
  | time (.toUnix _) => [instant]
  | time _ => [instant, .value (.string "day"), one]
  | documentId => [.value (.reference ⟨⟨["shop", "a"]⟩, by decide⟩)]
  | _ => []
where
  one : Outcome := .value (.integer 1)
  ones : Outcome := .value (.array [.integer 1])
  blank : Outcome := .value (.string "")
  unit : Outcome := .value (.vector [.one])
  instant : Outcome := .value (.timestamp ⟨1, 1000, by decide, by decide, by decide⟩)

/-- A function is known to be boolean if and only if nothing else ever comes of it but errors. -/
theorem isPredicate_iff (f : Builtin) : f.isPredicate = true ↔ ∀ rules args, (f.apply rules args).Decided := by
  refine ⟨apply_decided, fun decided => ?_⟩
  have revealing : all.all fun g => g.isPredicate ||
      !(isBoolean (g.apply 0 g.revealingOperands) || (g.apply 0 g.revealingOperands).isError) := by
    decide +kernel
  have revealed := List.all_eq_true.mp revealing f f.mem_all
  rwa [Outcome.decided_iff.mp (decided 0 f.revealingOperands), Bool.not_true, Bool.or_false] at revealed

end Builtin
end Functions
end DocQuery
