import DocQuery.Proofs.Eval.Conditions
import DocQuery.Proofs.Eval.Evaluate

/-! Functions of values. They fail unless each of their operands has a value, except that a map leaves out the pairs
whose values are absent; and what they make is not absent, unless they look for it in a map. -/
namespace DocQuery

/-- Some operand has no value. -/
def Missing (args : List Outcome) : Prop := ∃ o ∈ args, hasValue o = false

theorem not_missing_nil : ¬Missing [] := nofun

theorem Outcome.ofExcept_ne_absent (result : Except EvalError Value) : ofExcept result ≠ .absent := by
  cases result <;> nofun

theorem Outcome.Decided.ne_absent {o : Outcome} (decided : o.Decided) : o ≠ .absent := by
  cases decided <;> nofun

section Failures

variable {result : Except EvalError α}

theorem Outcome.isError_ofExcept {result : Except EvalError Value} (failed : fails result = true) :
    (ofExcept result).isError = true := by
  cases result with
  | ok v => contradiction
  | error e => rfl

theorem fails_map (failed : fails result = true) (g : α → β) : fails (result.map g) = true := by
  cases result with
  | ok a => contradiction
  | error e => rfl

theorem fails_bind (failed : fails result = true) (next : α → Except EvalError β) : fails (result >>= next) = true := by
  cases result with
  | ok a => contradiction
  | error e => rfl

theorem fails_bind_of_next {next : α → Except EvalError β} (failed : ∀ a, fails (next a) = true) :
    fails (result >>= next) = true := by
  cases result with
  | ok a => exact failed a
  | error e => rfl

theorem fails_iff_fault? : fails result = (fault? result).isSome := by
  cases result <;> rfl

end Failures

/-- Readers of operands that fail where there is no value. -/
def Strict (read : Outcome → Except EvalError α) : Prop := ∀ o, hasValue o = false → fails (read o) = true

namespace Strict

/-- An operand is missing where it is read, or it is missing among those that are read later. -/
theorem fails_bind {read : Outcome → Except EvalError α} {next : α → Except EvalError β} {o : Outcome}
    {rest : List Outcome} (strict : Strict read) (missing : Missing (o :: rest))
    (later : Missing rest → ∀ a, fails (next a) = true) : fails (read o >>= next) = true := by
  rcases List.exists_mem_cons_iff .. |>.mp missing with here | missing
  · exact DocQuery.fails_bind (strict o here) next
  · exact fails_bind_of_next (later missing)

/-- The last operand that is read. -/
theorem fails_last {read : Outcome → Except EvalError α} (strict : Strict read) {o : Outcome}
    (missing : Missing [o]) : fails (read o) = true := by
  obtain ⟨o, here, missing⟩ := missing
  exact List.mem_singleton.mp here ▸ strict o missing

theorem fails_bind_last {read : Outcome → Except EvalError α} (strict : Strict read) {o : Outcome}
    (missing : Missing [o]) (next : α → Except EvalError β) : fails (read o >>= next) = true :=
  DocQuery.fails_bind (strict.fails_last missing) next

theorem operand (f : Builtin) : Strict (Outcome.operand f) := by
  intro o missing
  cases o with
  | value v => contradiction
  | _ => rfl

theorem bind {read : Outcome → Except EvalError α} (strict : Strict read) (next : α → Except EvalError β) :
    Strict fun o => read o >>= next :=
  fun o missing => DocQuery.fails_bind (strict o missing) next

theorem string (f : Builtin) : Strict (Outcome.string f) := (operand f).bind _

theorem integer (f : Builtin) : Strict (Outcome.integer f) := (operand f).bind _

theorem number (f : Builtin) : Strict (Outcome.number f) := (operand f).bind _

theorem array (f : Builtin) : Strict (Outcome.array f) := (operand f).bind _

theorem entries (f : Builtin) : Strict (Outcome.entries f) := (operand f).bind _

theorem vector (f : Builtin) : Strict (Outcome.vector f) := (operand f).bind _

theorem timestamp (f : Builtin) : Strict (Outcome.timestamp f) := (operand f).bind _

theorem reference (f : Builtin) : Strict (Outcome.reference f) := (operand f).bind _

end Strict

section Families

variable {args : List Outcome}

namespace Arithmetic

variable {op : Arithmetic}

theorem foldFrom_strict (total : Number) (missing : Missing args) : fails (op.foldFrom total args) = true := by
  induction args generalizing total with
  | nil => exact absurd missing not_missing_nil
  | cons o rest ih =>
    exact (Strict.number _).fails_bind missing fun missing n => fails_bind_of_next fun total => ih total missing

theorem fold_strict (missing : Missing args) : fails (op.fold args) = true := by
  cases args with
  | nil => rfl
  | cons o rest => exact (Strict.number _).fails_bind missing fun missing n => foldFrom_strict n missing

theorem binary_strict {a b : Outcome} (missing : Missing [a, b]) : fails (op.binary a b) = true :=
  (Strict.number _).fails_bind missing fun missing _ => (Strict.number _).fails_bind_last missing _

theorem apply_strict (missing : Missing args) : (op.apply args).isError = true := by
  cases op with
  | add | multiply => exact Outcome.isError_ofExcept (fails_map (fold_strict missing) _)
  | subtract | divide | mod =>
    match args with
    | [] | [_] | _ :: _ :: _ :: _ => rfl
    | [a, b] => exact Outcome.isError_ofExcept (fails_map (binary_strict missing) _)

end Arithmetic

namespace TextFunction

variable {f : Builtin}

theorem join_strict (missing : Missing args) : fails (join f args) = true := by
  induction args with
  | nil => exact absurd missing not_missing_nil
  | cons o rest ih =>
    exact (Strict.string f).fails_bind missing fun missing _ => fails_bind (ih missing) _

theorem search_strict (found : List Char → List Char → Bool) {text needle : Outcome}
    (missing : Missing [text, needle]) : fails (search f found text needle) = true :=
  (Strict.string f).fails_bind missing fun missing _ => (Strict.string f).fails_bind_last missing _

theorem replace_strict (times : Option Nat) {text find new : Outcome} (missing : Missing [text, find, new]) :
    fails (replace f times text find new) = true :=
  (Strict.string f).fails_bind missing fun missing _ => (Strict.string f).fails_bind missing fun missing _ =>
    (Strict.string f).fails_bind_last missing _

theorem cut_strict {text position : Outcome} (length : Option Outcome)
    (missing : Missing (text :: position :: length.toList)) : fails (cut f text position length) = true := by
  refine (Strict.string f).fails_bind missing fun missing _ => (Strict.integer f).fails_bind missing fun missing _ => ?_
  cases length with
  | none => exact absurd missing not_missing_nil
  | some length => exact fails_bind ((Strict.integer f).fails_bind_last missing _) _

theorem apply_strict {t : TextFunction} (missing : Missing args) : (t.apply args).isError = true := by
  cases t with
  | charLength | byteLength =>
    match args with
    | [] | _ :: _ :: _ => rfl
    | [o] => exact Outcome.isError_ofExcept ((Strict.operand _).fails_bind_last missing _)
  | toLower | toUpper | trim | reverse =>
    match args with
    | [] | _ :: _ :: _ => rfl
    | [o] => exact Outcome.isError_ofExcept ((Strict.string _).fails_bind_last missing _)
  | concat => exact Outcome.isError_ofExcept (fails_map (join_strict missing) _)
  | substr =>
    match args with
    | [] | [_] | _ :: _ :: _ :: _ :: _ => rfl
    | [_, _] => exact Outcome.isError_ofExcept (cut_strict none missing)
    | [_, _, length] => exact Outcome.isError_ofExcept (cut_strict (some length) missing)
  | replaceFirst | replaceAll =>
    match args with
    | [] | [_] | [_, _] | _ :: _ :: _ :: _ :: _ => rfl
    | [_, _, _] => exact Outcome.isError_ofExcept (replace_strict _ missing)
  | contains | startsWith | endsWith =>
    match args with
    | [] | [_] | _ :: _ :: _ :: _ => rfl
    | [_, _] => exact Outcome.isError_ofExcept (search_strict _ missing)

end TextFunction

theorem PatternTest.apply_strict (rules : RegexRules) {p : PatternTest} {text pattern : Outcome}
    (missing : Missing [text, pattern]) : fails (p.apply rules text pattern) = true :=
  (Strict.string _).fails_bind missing fun missing _ => (Strict.string _).fails_bind_last missing _

namespace CollectionFunction

variable {f : Builtin}

theorem join_strict (missing : Missing args) : fails (join f args) = true := by
  induction args with
  | nil => exact absurd missing not_missing_nil
  | cons o rest ih =>
    exact (Strict.array f).fails_bind missing fun missing _ => fails_bind (ih missing) _

theorem merge_strict (entries : Fields) (missing : Missing args) : fails (merge f entries args) = true := by
  induction args generalizing entries with
  | nil => exact absurd missing not_missing_nil
  | cons o rest ih => exact (Strict.entries f).fails_bind missing fun missing _ => ih _ missing

theorem isError_getEntry (m key : Outcome) :
    (getEntry f m key).isError = (fails (m.entries f) || fails (key.string f)) := by
  have isError_iff (o : Outcome) : o.isError = o.error?.isSome := by cases o <;> rfl
  rw [isError_iff, error?_getEntry, Option.isSome_or, fails_iff_fault?, fails_iff_fault?]

theorem getEntry_strict {m key : Outcome} (missing : Missing [m, key]) : (getEntry f m key).isError = true := by
  rw [isError_getEntry, Bool.or_eq_true]
  rcases List.exists_mem_cons_iff .. |>.mp missing with no_map | missing
  · exact .inl (Strict.entries f m no_map)
  · exact .inr ((Strict.string f).fails_last missing)

theorem eq_nil_of_unpaired (even : args.length % 2 = 0)
    (unpaired : ∀ key value rest, args = key :: value :: rest → False) : args = [] := by
  cases args with
  | nil => rfl
  | cons key rest =>
    cases rest with
    | nil => contradiction
    | cons value rest => exact absurd rfl (unpaired key value rest)

/-- A map fails for its keys and for what fails among its values, but not for what is absent among them. -/
theorem pairs_strict {i : Nat} {o : Outcome} (even : args.length % 2 = 0) (here : args[i]? = some o)
    (failing : o.isError = true ∨ hasValue o = false ∧ i % 2 = 0) : fails (pairs f args) = true := by
  induction args using pairs.induct generalizing i with
  | case1 key value rest ih =>
    match i with
    | 0 =>
      obtain rfl : key = o := by simpa using here
      have missing : hasValue key = false := by
        rcases failing with failed | missing
        · cases key <;> first | contradiction | rfl
        · exact missing.1
      exact fails_bind (Strict.string f key missing) _
    | 1 =>
      obtain rfl : value = o := by simpa using here
      have failed : value.isError = true := by simpa using failing
      cases value with
      | error e => exact fails_bind_of_next fun _ => rfl
      | _ => contradiction
    | i + 2 =>
      have later : fails (pairs f rest) = true := by
        refine ih ?_ (by simpa using here) (by simpa using failing)
        rw [List.length_cons, List.length_cons] at even
        omega
      refine fails_bind_of_next fun _ => ?_
      cases value with
      | error e => rfl
      | absent => exact later
      | value v => exact fails_bind later _
  | case2 args unpaired =>
    rw [eq_nil_of_unpaired even unpaired] at here
    contradiction

theorem pairs_append {front : List Outcome} (even : front.length % 2 = 0) (more : List Outcome) :
    pairs f (front ++ more) = do return (← pairs f front) ++ (← pairs f more) := by
  induction front using pairs.induct with
  | case1 key value rest ih =>
    have later := ih (by rw [List.length_cons, List.length_cons] at even; omega)
    simp only [List.cons_append, pairs, bind_assoc]
    refine bind_congr fun k => ?_
    cases value with
    | error e => rfl
    | absent => exact later
    | value v => simp only [later, bind_assoc, pure_bind, List.cons_append]
  | case2 front unpaired =>
    rw [eq_nil_of_unpaired even unpaired]
    exact (bind_pure (pairs f more)).symm

/-- A pair whose value is absent is left out, if its key can be read. -/
theorem pairs_absent {front rest : List Outcome} (even : front.length % 2 = 0) (k : String) :
    pairs f (front ++ .value (.string k) :: .absent :: rest) = pairs f (front ++ rest) := by
  rw [pairs_append even, pairs_append even]
  rfl

theorem pairs_unreadable {front rest : List Outcome} (even : front.length % 2 = 0) {key value : Outcome}
    (unread : fails (key.string f) = true) : fails (pairs f (front ++ key :: value :: rest)) = true := by
  rw [pairs_append even]
  exact fails_bind_of_next fun _ => fails_bind (fails_bind unread _) _

theorem apply_strict {c : CollectionFunction} (collects : c ≠ .map) (missing : Missing args) :
    (c.apply args).isError = true := by
  cases c with
  | arrayLength | arrayReverse =>
    match args with
    | [] | _ :: _ :: _ => rfl
    | [o] => exact Outcome.isError_ofExcept (fails_map ((Strict.array _).fails_last missing) _)
  | arrayConcat => exact Outcome.isError_ofExcept (fails_map (join_strict missing) _)
  | arrayGet =>
    match args with
    | [] | [_] | _ :: _ :: _ :: _ => rfl
    | [_, _] =>
      exact Outcome.isError_ofExcept
        ((Strict.array _).fails_bind missing fun missing _ => (Strict.integer _).fails_bind_last missing _)
  | map => contradiction
  | mapGet =>
    match args with
    | [] | [_] | _ :: _ :: _ :: _ => rfl
    | [_, _] => exact getEntry_strict missing
  | mapMerge => exact Outcome.isError_ofExcept (fails_map (merge_strict [] missing) _)
  | mapRemove =>
    match args with
    | [] | [_] | _ :: _ :: _ :: _ => rfl
    | [_, _] =>
      exact Outcome.isError_ofExcept
        ((Strict.entries _).fails_bind missing fun missing _ => (Strict.string _).fails_bind_last missing _)

end CollectionFunction

theorem VectorFunction.apply_strict {v : VectorFunction} (missing : Missing args) : (v.apply args).isError = true := by
  match args with
  | [] | _ :: _ :: _ :: _ => cases v <;> rfl
  | [o] =>
    cases v with
    | length => exact Outcome.isError_ofExcept ((Strict.vector _).fails_bind_last missing _)
    | _ => rfl
  | [a, b] =>
    have distance : fails (v.distance a b) = true :=
      (Strict.vector _).fails_bind missing fun missing _ => (Strict.vector _).fails_bind_last missing _
    cases v <;> exact Outcome.isError_ofExcept distance

theorem TimeFunction.shift_strict {f : Builtin} (sign : Int) {time unit amount : Outcome}
    (missing : Missing [time, unit, amount]) : fails (shift f sign time unit amount) = true :=
  (Strict.timestamp f).fails_bind missing fun missing _ => (Strict.string f).fails_bind missing fun missing _ =>
    (Strict.integer f).fails_bind_last missing _

theorem TimeFunction.apply_strict {t : TimeFunction} (missing : Missing args) : (t.apply args).isError = true := by
  cases t with
  | ofUnix unit =>
    match args with
    | [] | _ :: _ :: _ => rfl
    | [o] => exact Outcome.isError_ofExcept ((Strict.integer _).fails_bind_last missing _)
  | toUnix unit =>
    match args with
    | [] | _ :: _ :: _ => rfl
    | [o] => exact Outcome.isError_ofExcept ((Strict.timestamp _).fails_bind_last missing _)
  | add | sub =>
    match args with
    | [] | [_] | [_, _] | _ :: _ :: _ :: _ :: _ => rfl
    | [_, _, _] => exact Outcome.isError_ofExcept (shift_strict _ missing)

end Families

namespace Builtin

variable {f : Builtin} {args : List Outcome}

theorem apply_map (rules : RegexRules) (even : args.length % 2 = 0) : (collection .map).apply rules args =
    .ofExcept ((CollectionFunction.pairs (collection .map) args).map fun entries => .map (Entries.ofPairs entries)) :=
  if_pos (beq_iff_eq.mpr even)

theorem isError_map {i : Nat} {o : Outcome} (rules : RegexRules) (here : args[i]? = some o)
    (failing : o.isError = true ∨ hasValue o = false ∧ i % 2 = 0) :
    ((collection .map).apply rules args).isError = true := by
  by_cases even : args.length % 2 = 0
  · rw [apply_map rules even]
    exact Outcome.isError_ofExcept (fails_map (CollectionFunction.pairs_strict even here failing) _)
  · have refused : (collection .map).arity.admits args.length ≠ true := fun admitted => even (eq_of_beq admitted)
    rw [apply, if_neg refused]
    rfl

/-- What comes of a map if a value is absent depends on its key. -/
theorem apply_map_absent (rules : RegexRules) {front rest : List Outcome} (even_front : front.length % 2 = 0)
    (even_rest : rest.length % 2 = 0) (key : Outcome) :
    let made := (collection .map).apply rules (front ++ key :: .absent :: rest)
    (∀ k, key = .value (.string k) → made = (collection .map).apply rules (front ++ rest)) ∧
      ((∀ k, key ≠ .value (.string k)) → made.isError = true) := by
  intro made
  have even : (front ++ key :: .absent :: rest).length % 2 = 0 := by simp; omega
  have made_eq : made = _ := apply_map rules even
  constructor
  · rintro k rfl
    rw [made_eq, CollectionFunction.pairs_absent even_front, apply_map rules (by simp; omega)]
  · intro unread
    rw [made_eq]
    have failed : fails (key.string (collection .map)) = true := by
      cases key with
      | value v => cases v <;> first | rfl | exact absurd rfl (unread _)
      | _ => rfl
    exact Outcome.isError_ofExcept (fails_map (CollectionFunction.pairs_unreadable even_front failed) _)

/-- Functions that make new values of values. -/
def isValueFunction : Builtin → Bool
  | arithmetic _ | text _ | pattern _ | collection _ | vector _ | time _ | documentId => true
  | _ => false

theorem apply_strict (strict : f.isValueFunction = true) (collects : f ≠ .collection .map) (rules : RegexRules)
    (missing : Missing args) : (f.apply rules args).isError = true := by
  by_cases admitted : f.arity.admits args.length = true
  case neg =>
    rw [apply, if_neg admitted]
    rfl
  case pos =>
    rw [apply, if_pos admitted]
    cases f with
    | arithmetic op => exact Arithmetic.apply_strict missing
    | text t => exact TextFunction.apply_strict missing
    | pattern p =>
      obtain ⟨text, pattern, rfl⟩ := List.length_eq_two.mp (eq_of_beq admitted)
      exact Outcome.isError_ofExcept (p.apply_strict rules missing)
    | collection c => exact CollectionFunction.apply_strict (fun map => collects (congrArg collection map)) missing
    | vector v => exact VectorFunction.apply_strict missing
    | time t => exact TimeFunction.apply_strict missing
    | documentId =>
      obtain ⟨o, rfl⟩ := List.length_eq_one_iff.mp (eq_of_beq admitted)
      exact Outcome.isError_ofExcept (fails_map ((Strict.reference _).fails_last missing) _)
    | _ => contradiction

theorem apply_ne_absent (found : f ∉ [collection .mapGet, selection .cond, selection .ifError]) (rules : RegexRules)
    (args : List Outcome) : f.apply rules args ≠ .absent := by
  have of_run (present : f.arity.admits args.length = true → f.run rules args ≠ .absent) :
      f.apply rules args ≠ .absent := by
    rw [apply]
    split
    case isTrue admitted => exact present admitted
    case isFalse => exact Outcome.ofExcept_ne_absent (.error _)
  cases f with
  | relation | inspection | membership | containment | connective | pattern =>
    exact (apply_decided rfl rules args).ne_absent
  | arithmetic | text | vector | time => exact of_run fun _ => Outcome.ofExcept_ne_absent _
  | documentId =>
    refine of_run fun admitted => ?_
    obtain ⟨o, rfl⟩ := List.length_eq_one_iff.mp (eq_of_beq admitted)
    exact Outcome.ofExcept_ne_absent _
  | selection s =>
    cases s with
    | isError => exact (apply_decided rfl rules args).ne_absent
    | maximum | minimum => exact of_run fun _ => Outcome.ofExcept_ne_absent (.ok _)
    | ifError | cond => simp at found
  | collection c =>
    refine of_run fun _ => ?_
    change c.apply args ≠ .absent
    unfold CollectionFunction.apply
    split
    case h_6 => simp at found
    all_goals first | exact Outcome.ofExcept_ne_absent _ | exact Outcome.ofExcept_ne_absent (.error _)

/-- Only in a map can a function fail to find something; two others can choose what is absent. -/
theorem exists_absent_iff : (∃ rules args, f.apply rules args = .absent) ↔
    f ∈ [collection .mapGet, selection .cond, selection .ifError] := by
  constructor
  · rintro ⟨rules, args, absent⟩
    by_contra found
    exact apply_ne_absent found rules args absent
  · intro member
    simp only [List.mem_cons, List.not_mem_nil, or_false] at member
    rcases member with rfl | rfl | rfl
    · exact ⟨0, [.value (.map []), .value (.string "")], rfl⟩
    · exact ⟨0, [.absent, .absent, .absent], rfl⟩
    · exact ⟨0, [.absent, .absent], rfl⟩

end Builtin

section Calls

/-- Functions of values fail if one of their operands does or is absent, wherever it stands. Only a map with an absent
value is the map without that pair. Nothing but a field, or a call of one of three functions, is ever absent. -/
theorem value_functions_strict (rules : RegexRules) (row : Row) :
    let outcome := evaluate rules row
    (∀ (e : Expr) (f : Builtin) (args : List Expr), e.application? = some (f, args) → f.isValueFunction = true →
      ∀ (i : Nat) (a : Expr), args[i]? = some a → hasValue (outcome a) = false →
        ¬(f = .collection .map ∧ i % 2 = 1 ∧ outcome a = .absent) → (outcome e).isError = true) ∧
    (∀ (e e' key value : Expr) (front rest : List Expr),
      e.application? = some (.collection .map, front ++ key :: value :: rest) →
      e'.application? = some (.collection .map, front ++ rest) → front.length % 2 = 0 → rest.length % 2 = 0 →
        outcome value = .absent →
          (∀ k, outcome key = .value (.string k) → outcome e = outcome e') ∧
            ((∀ k, outcome key ≠ .value (.string k)) → (outcome e).isError = true)) ∧
    (∀ v, outcome (.constant v) ≠ .absent) ∧ (∀ items, outcome (.list items) ≠ .absent) ∧
    (∀ (e : Expr) (f : Builtin) (args : List Expr), e.application? = some (f, args) →
      f ∉ [.collection .mapGet, .selection .cond, .selection .ifError] → outcome e ≠ .absent) := by
  intro outcome
  refine ⟨?_, ?_, fun v => nofun, fun items => Outcome.ofExcept_ne_absent _, ?_⟩
  · intro e f args call strict i a here missing kept
    have applied : outcome e = f.apply rules (args.map outcome) := evaluate_application call rules row
    have at_i : (args.map outcome)[i]? = some (outcome a) := by rw [List.getElem?_map, here, Option.map_some]
    rw [applied]
    by_cases collects : f = .collection .map
    · subst collects
      refine Builtin.isError_map rules at_i ?_
      cases out : outcome a with
      | value v =>
        rw [out] at missing
        contradiction
      | error e => exact .inl rfl
      | absent => exact .inr ⟨rfl, by simp only [out, true_and, and_true] at kept; omega⟩
    · exact Builtin.apply_strict strict collects rules ⟨_, List.mem_of_getElem? at_i, missing⟩
  · intro e e' key value front rest call call' even_front even_rest absent
    have made : outcome e = (Builtin.collection .map).apply rules
        (front.map outcome ++ outcome key :: .absent :: rest.map outcome) := by
      rw [← absent, ← List.map_cons, ← List.map_cons, ← List.map_append]
      exact evaluate_application call rules row
    have left_out : outcome e' = (Builtin.collection .map).apply rules (front.map outcome ++ rest.map outcome) := by
      rw [← List.map_append]
      exact evaluate_application call' rules row
    rw [made, left_out]
    exact Builtin.apply_map_absent rules (by rwa [List.length_map]) (by rwa [List.length_map]) (outcome key)
  · intro e f args call found
    have applied : outcome e = f.apply rules (args.map outcome) := evaluate_application call rules row
    rw [applied]
    exact Builtin.apply_ne_absent found rules _

/-- A missing field spoils a sum, and a map where it is a key, but as a value it only loses its pair. -/
theorem value_functions_strict_on_missing_field :
    let row : Row := .ofFields [("n", .integer 1)]
    let n : Expr := .field ⟨["n"]⟩
    let missing : Expr := .field ⟨["missing"]⟩
    let a : Expr := .constant (.string "a")
    let b : Expr := .constant (.string "b")
    let made (args : List Expr) : Expr := .call (.collection .map) args
    let outcome := evaluate 100 row
    hasValue (outcome missing) = false ∧ (outcome (.call (.arithmetic .add) [n, missing])).isError = true ∧
      (outcome (made [missing, n])).isError = true ∧
      outcome (made [a, n, b, missing]) = outcome (made [a, n]) ∧
      (outcome (made [a, n, n, missing])).isError = true ∧
      outcome (.call (.text .concat) [n, missing]) ≠ .absent := by
  intro row n missing a b made outcome
  obtain ⟨strict, pairs, _, _, present⟩ := value_functions_strict 100 row
  have absent : outcome missing = .absent := rfl
  have pair (key : Expr) := pairs (made [a, n, key, missing]) (made [a, n]) key missing [a, n] [] rfl rfl
    (by decide) rfl absent
  refine ⟨rfl, ?_, ?_, (pair b).1 "b" rfl, (pair n).2 nofun, present _ (.text .concat) [n, missing] rfl (by decide)⟩
  · exact strict _ (.arithmetic .add) [n, missing] rfl rfl 1 missing rfl rfl nofun
  · exact strict _ (.collection .map) [missing, n] rfl rfl 0 missing rfl rfl (by simp)

end Calls
end DocQuery
