import DocQuery.Eval.Context
import DocQuery.Proofs.Eval.Consulted
import DocQuery.Proofs.Eval.Evaluate
import DocQuery.Proofs.Pattern.Cache

/-! Evaluating expressions one after another with one cache of patterns, one count of errors and one log. Whatever was
evaluated before, the outcomes are those of evaluating without any state, and the cache is asked for the patterns
that the expressions are said to ask for. -/
namespace DocQuery

open PatternCache (Choices Sound)

/-- For each time that a pattern is asked for, a lawful choice of what stays should the cache be full. -/
structure Evictions where
  keep : Choices
  lawful : ∀ n, (keep n).Lawful

/-- The same choice each time. -/
def Evictions.always (keep : PatternCache.Retention) (lawful : keep.Lawful) : Evictions :=
  ⟨fun _ => keep, fun _ => lawful⟩

theorem Evictions.always_keep (keep : PatternCache.Retention) (lawful : keep.Lawful) :
    (always keep lawful).keep = fun _ => keep := rfl

instance : Inhabited Evictions := ⟨.always PatternCache.keepNewest PatternCache.keepNewest_lawful⟩

instance : Coe Evictions Choices := ⟨Evictions.keep⟩

/-- What is done to a context. -/
inductive Act where
  | ask (request : PatternRequest)
  | record (error : EvalError)
  | enter (stage : String)
  | complete (stage : String) (index output : Nat)

/-- An evaluation asks for its patterns and then records its error, if it has one. -/
def Evaluation.acts (e : Evaluation) : List Act := e.requests.map .ask ++ (e.error.map .record).toList

namespace StageContext

def perform (choices : Choices) (ctx : StageContext) : Act → StageContext
  | .ask request => (askPattern choices request ctx).2
  | .record error => ctx.record error
  | .enter stage => ctx.enter stage
  | .complete stage index output => ctx.complete stage index output

def after (choices : Choices) (ctx : StageContext) (acts : List Act) : StageContext := acts.foldl (perform choices) ctx

variable {choices : Choices} {evictions : Evictions} {rules : RegexRules} {ctx : StageContext}

@[simp] theorem after_nil : ctx.after choices [] = ctx := rfl

@[simp] theorem after_cons (act : Act) (acts : List Act) :
    ctx.after choices (act :: acts) = (ctx.perform choices act).after choices acts := rfl

theorem after_append (acts acts' : List Act) :
    ctx.after choices (acts ++ acts') = (ctx.after choices acts).after choices acts' := List.foldl_append

@[simp] theorem write_lines (lines : List LogLine) : (ctx.write lines).lines = ctx.lines ++ lines := rfl

/-- Only asking for a pattern changes the cache. -/
theorem perform_cache (choices : Choices) (ctx : StageContext) (act : Act) : (ctx.perform choices act).cache =
    match act with
    | .ask request => (ctx.cache.get (choices ctx.asked) request).cache
    | _ => ctx.cache := by
  cases act with
  | ask request => exact PatternCache.fetchPattern_cache
  | _ => rfl

theorem perform_sound (act : Act) (sound : Sound rules ctx.cache) : Sound rules (ctx.perform evictions act).cache := by
  rw [perform_cache]
  cases act with
  | ask request => exact sound.get (evictions.lawful ctx.asked) request
  | _ => exact sound

theorem after_sound (acts : List Act) (sound : Sound rules ctx.cache) :
    Sound rules (ctx.after evictions acts).cache := by
  induction acts generalizing ctx with
  | nil => exact sound
  | cons act acts ih => exact ih (perform_sound act sound)

end StageContext

/-! Errors are counted as they are recorded. -/

def Act.fails : Act → Bool
  | .record _ => true
  | _ => false

theorem StageContext.perform_errors (choices : Choices) (ctx : StageContext) (act : Act) :
    (ctx.perform choices act).errors = ctx.errors + if act.fails then 1 else 0 := by
  cases act <;> rfl

theorem StageContext.after_errors (choices : Choices) (ctx : StageContext) (acts : List Act) :
    (ctx.after choices acts).errors = ctx.errors + acts.countP (·.fails) := by
  induction acts generalizing ctx with
  | nil => rfl
  | cons act acts ih =>
    rw [after_cons, ih, perform_errors, List.countP_cons]
    omega

theorem Evaluation.countP_acts (e : Evaluation) : e.acts.countP (·.fails) = if e.error.isSome then 1 else 0 := by
  have asking : (e.requests.map Act.ask).countP (·.fails) = 0 := by
    rw [List.countP_map, List.countP_eq_zero]
    exact fun _ _ => Bool.false_ne_true
  rw [acts, List.countP_append, asking, Nat.zero_add]
  cases e.error <;> rfl

theorem countP_flatMap_acts (evaluations : List Evaluation) :
    (evaluations.flatMap (·.acts)).countP (·.fails) = errorCount evaluations := by
  induction evaluations with
  | nil => rfl
  | cons e evaluations ih =>
    rw [List.flatMap_cons, List.countP_append, ih, e.countP_acts, errorCount, errorCount, List.countP_cons,
      Nat.add_comm]

theorem StageContext.errors_after (choices : Choices) (ctx : StageContext) (evaluations : List Evaluation) :
    (ctx.after choices (evaluations.flatMap (·.acts))).errors = ctx.errors + errorCount evaluations := by
  rw [after_errors, countP_flatMap_acts]

/-- With a sound cache, a computation has a value that does not depend on the context, and does certain things to it. -/
def Yields (evictions : Evictions) (rules : RegexRules) (x : InContext α) (value : α) (acts : List Act) : Prop :=
  ∀ ctx : StageContext, Sound rules ctx.cache → x ctx = (value, ctx.after evictions acts)

section Yields

variable {evictions : Evictions} {rules : RegexRules} {acts acts' : List Act}

theorem yields_pure (a : α) : Yields evictions rules (pure a) a [] := fun _ _ => rfl

theorem Yields.bind {x : InContext α} {f : α → InContext β} {a : α} {b : β}
    (first : Yields evictions rules x a acts) (next : Yields evictions rules (f a) b acts') :
    Yields evictions rules (x >>= f) b (acts ++ acts') := by
  intro ctx sound
  have done := next (ctx.after evictions acts) (StageContext.after_sound acts sound)
  simp only [Bind.bind, StateT.bind, first ctx sound, StageContext.after_append]
  exact done

theorem Yields.bind_pure {x : InContext α} {a : α} (f : α → β) (first : Yields evictions rules x a acts) :
    Yields evictions rules (x >>= fun a => pure (f a)) (f a) acts := by
  have both := first.bind (f := fun a => pure (f a)) (yields_pure (f a))
  rwa [List.append_nil] at both

theorem askPattern_yields (evictions : Evictions) (rules : RegexRules) (request : PatternRequest) :
    Yields evictions rules (askPattern evictions request) (PatternCache.compiled rules request) [.ask request] := by
  intro ctx sound
  have result : (askPattern evictions request ctx).1 = PatternCache.compiled rules request :=
    PatternCache.fetchPattern_result.trans sound.get_result
  rw [← result]
  rfl

theorem ownRequest_eq_nil {f : Builtin} {args : List Outcome}
    (other : ∀ p s t, f = .pattern p → args ≠ [.value (.string s), .value (.string t)]) : f.ownRequest args = [] := by
  unfold Builtin.ownRequest
  split
  case h_1 p s t => exact absurd rfl (other p s t rfl)
  case h_2 => rfl

theorem apply_pattern (rules : RegexRules) (p : PatternTest) (s t : String) :
    (Builtin.pattern p).apply rules [.value (.string s), .value (.string t)] =
      match PatternCache.compiled rules ⟨p.kind, t⟩ with
      | .ok compiled => .boolean (compiled.accepts s.toList)
      | .error reason => .error (.invalidPattern t reason) := by
  change Outcome.ofExcept (p.apply rules (.value (.string s)) (.value (.string t))) = _
  rw [PatternCache.compiled]
  simp only [PatternTest.apply, Outcome.string, Outcome.operand, bind, Except.bind, pure, Except.pure]
  cases Pattern.compile rules p.kind t <;> rfl

theorem applyIn_yields (evictions : Evictions) (rules : RegexRules) (f : Builtin) (args : List Outcome) :
    Yields evictions rules (f.applyIn evictions args) (f.apply rules args) ((f.ownRequest args).map .ask) := by
  unfold Builtin.applyIn
  split
  case h_1 p s t =>
    have asked := askPattern_yields evictions rules ⟨p.kind, t⟩
    rw [apply_pattern]
    change Yields evictions rules _ _ ([.ask ⟨p.kind, t⟩] ++ [])
    refine asked.bind ?_
    cases PatternCache.compiled rules ⟨p.kind, t⟩ with
    | ok compiled => exact yields_pure _
    | error reason => exact yields_pure _
  case h_2 other =>
    intro ctx sound
    rw [ownRequest_eq_nil fun p s t test same => other p s t test same, ← sound.rules_eq]
    rfl

end Yields

section Reading

variable {consulted : List Outcome → List Nat} {os : List Outcome} {i : Nat}

/-- The operands that are consulted, with nothing in the place of the others. -/
def masked (consulted : List Outcome → List Nat) (os : List Outcome) : List Outcome :=
  os.mapIdx fun i o => if i ∈ consulted os then o else .absent

theorem length_masked : (masked consulted os).length = os.length := List.length_mapIdx

theorem getElem?_masked_of_mem (member : i ∈ consulted os) : (masked consulted os)[i]? = os[i]? := by
  simp [masked, member]

theorem Suffices.apply_masked {g : List Outcome → β} (enough : Suffices consulted g) (os : List Outcome) :
    g (masked consulted os) = g os :=
  (enough length_masked.symm fun _ member => (getElem?_masked_of_mem member).symm).symm

/-- What is seen of the operands before one tells whether that one is consulted. -/
theorem Leftward.mem_iff (leftward : Leftward consulted) (os : List Outcome) (i : Nat) :
    i ∈ consulted ((masked consulted os).take i ++ List.replicate (os.length - i) .absent) ↔ i ∈ consulted os := by
  refine (@leftward os _ ?_ i fun j less member => ?_).symm
  · rw [List.length_append, List.length_take, List.length_replicate, length_masked]
    omega
  · by_cases inside : j < os.length
    · rw [List.getElem?_append_left (by rw [List.length_take, length_masked]; omega), List.getElem?_take_of_lt less,
        getElem?_masked_of_mem member]
    · rw [List.getElem?_eq_none (by omega), List.getElem?_eq_none]
      rw [List.length_append, List.length_take, List.length_replicate, length_masked]
      omega

theorem take_masked_succ {front : List Outcome} {o : Outcome} {back : List Outcome} (eq : os = front ++ o :: back) :
    (masked consulted os).take (front.length + 1) = (masked consulted os).take front.length ++
      [if front.length ∈ consulted os then o else .absent] := by
  have here : os[front.length]? = some o := by simp [eq]
  have shown : (masked consulted os)[front.length]? = some (if front.length ∈ consulted os then o else .absent) := by
    simp [masked, here]
  rw [List.take_add_one, shown, Option.toList_some]

variable {evictions : Evictions} {rules : RegexRules} {row : Row}

/-- In any context an expression has the outcome that it has without one, and its requests are asked in their order. -/
def EvaluatesIn (evictions : Evictions) (rules : RegexRules) (row : Row) (e : Expr) : Prop :=
  Yields evictions rules (evaluateIn evictions row e) (evaluate rules row e) ((requests rules row e).map .ask)

/-- Operands are read from left to right as far as they are consulted, and so are their patterns asked for. -/
theorem readIn_yields (leftward : Leftward consulted) {es : List Expr} (front : List Outcome)
    (members : ∀ e ∈ es, EvaluatesIn evictions rules row e) (eq : os = front ++ es.map (evaluate rules row)) :
    Yields evictions rules (readIn evictions row consulted ((masked consulted os).take front.length) es)
      (masked consulted os)
      (((es.zipIdx front.length).flatMap fun p => if p.2 ∈ consulted os then requests rules row p.1 else []).map
        .ask) := by
  induction es generalizing front with
  | nil =>
    have all : front.length = (masked consulted os).length := by simp [length_masked, eq]
    rw [readIn, all, List.take_length]
    exact yields_pure _
  | cons e es ih =>
    have next : os = (front ++ [evaluate rules row e]) ++ es.map (evaluate rules row) := by simp [eq]
    have later := ih (front ++ [evaluate rules row e])
      (fun e' member => members e' (List.mem_cons_of_mem e member)) next
    have here : (masked consulted os).take (front.length + 1) = _ := take_masked_succ (eq.trans (by rw [List.map_cons]))
    have seen : ((masked consulted os).take front.length).length = front.length := by
      simp [length_masked, eq]
    have left : os.length - front.length = es.length + 1 := by simp [eq]
    have consults := leftward.mem_iff os front.length
    rw [List.length_append, List.length_singleton, here] at later
    rw [left] at consults
    rw [readIn, seen, List.zipIdx_cons, List.flatMap_cons]
    simp only [consults]
    by_cases member : front.length ∈ consulted os
    · rw [if_pos member] at later ⊢
      rw [if_pos member]
      rw [List.map_append]
      exact (members e List.mem_cons_self).bind later
    · rw [if_neg member] at later ⊢
      rw [if_neg member]
      exact later

end Reading

section Requests

theorem requestsOfAll_eq_map (rules : RegexRules) (row : Row) (es : List Expr) :
    requestsOfAll rules row es = es.map (requests rules row) := by
  induction es with
  | nil => rfl
  | cons e es ih => rw [requestsOfAll, ih, List.map_cons]

theorem flatMap_getD_eq {positions : List Nat} (parts : List (List α)) (n : Nat)
    (ascending : positions.Pairwise (· < ·)) (least : ∀ i ∈ positions, n ≤ i) :
    positions.flatMap (fun i => parts.getD (i - n) []) =
      (parts.zipIdx n).flatMap fun p => if p.2 ∈ positions then p.1 else [] := by
  induction parts generalizing positions n with
  | nil => simp
  | cons part parts ih =>
    have later {rest : List Nat} (ascending : rest.Pairwise (· < ·)) (after : ∀ i ∈ rest, n < i) :
        rest.flatMap (fun i => (part :: parts).getD (i - n) []) =
          (parts.zipIdx (n + 1)).flatMap fun p => if p.2 ∈ rest then p.1 else [] := by
      rw [← ih (n + 1) ascending after]
      refine List.flatMap_congr fun i member => ?_
      obtain ⟨k, rfl⟩ := Nat.exists_eq_add_of_lt (after i member)
      rw [show n + k + 1 - n = k + 1 by omega, show n + k + 1 - (n + 1) = k by omega, List.getD_cons_succ]
    rw [List.zipIdx_cons, List.flatMap_cons]
    by_cases first : n ∈ positions
    · obtain ⟨i, rest, rfl⟩ := List.exists_cons_of_ne_nil (List.ne_nil_of_mem first)
      rw [List.pairwise_cons] at ascending
      obtain rfl : n = i := by
        rcases List.mem_cons.mp first with same | behind
        · exact same
        · exact absurd (ascending.1 n behind) (Nat.not_lt_of_le (least i List.mem_cons_self))
      rw [if_pos first, List.flatMap_cons, later ascending.2 ascending.1, Nat.sub_self, List.getD_cons_zero]
      congr 1
      refine List.flatMap_congr fun p member => ?_
      have behind : n + 1 ≤ p.2 := (List.mem_zipIdx member).1
      simp [show p.2 ≠ n by omega]
    · rw [if_neg first, List.nil_append]
      exact later ascending fun i member => Nat.lt_of_le_of_ne (least i member) fun same => first (same ▸ member)

/-- Parts at ascending positions are picked in the order of all parts. -/
theorem pick_eq_flatMap {positions : List Nat} (parts : List (List α)) (ascending : positions.Pairwise (· < ·)) :
    pick parts positions = parts.zipIdx.flatMap fun p => if p.2 ∈ positions then p.1 else [] :=
  flatMap_getD_eq parts 0 ascending fun _ _ => Nat.zero_le _

theorem consulted_ascending (f : Builtin) (os : List Outcome) : (f.consulted os).Pairwise (· < ·) := by
  unfold Builtin.consulted
  split
  · exact .nil
  · split
    · split <;> simp
    · split
      · simp
      · split <;> simp
    · exact List.pairwise_lt_range

theorem decides_ownRequest (p : PatternTest) :
    Decides (Builtin.pattern p).demand (Builtin.pattern p).ownRequest := by
  refine decides_of_sameUpTo fun os os' upTo => ?_
  by_cases two : os.length = 2
  · rw [not_readsString] at upTo
    obtain ⟨a, b, b', rfl, rfl, failed | rfl⟩ := upTo.exists_of_length_two two
    · have unread (b : Outcome) : (Builtin.pattern p).ownRequest [a, b] = [] := by
        refine ownRequest_eq_nil fun q s t _ same => ?_
        obtain ⟨rfl, _⟩ := List.cons.inj same
        contradiction
      rw [unread, unread]
    · rfl
  · rw [ownRequest_eq_nil fun q s t _ same => two (by rw [same]; rfl),
      ownRequest_eq_nil fun q s t _ same => two (by rw [upTo.length_eq, same]; rfl)]

theorem consulted_suffices_ownRequest (f : Builtin) : Suffices f.consulted f.ownRequest := by
  intro os os' length same
  by_cases pair : (∃ p, f = .pattern p) ∧ os.length = 2
  · obtain ⟨⟨p, rfl⟩, two⟩ := pair
    rcases consulted_kinds (.pattern p) with test | test | counted
    · contradiction
    · contradiction
    · rw [counted (by rw [two]; rfl)] at same
      exact (decides_ownRequest p).suffices length same
  · rw [ownRequest_eq_nil fun p s t test same => pair ⟨⟨p, test⟩, by rw [same]; rfl⟩,
      ownRequest_eq_nil fun p s t test same => pair ⟨⟨p, test⟩, by rw [length, same]; rfl⟩]

end Requests

section Evaluation

variable {evictions : Evictions} {rules : RegexRules} {row : Row}

theorem readIn_yields_pick {consulted : List Outcome → List Nat} (leftward : Leftward consulted)
    (ascending : ∀ os, (consulted os).Pairwise (· < ·)) {args : List Expr}
    (members : ∀ e ∈ args, EvaluatesIn evictions rules row e) :
    Yields evictions rules (readIn evictions row consulted [] args)
      (masked consulted (evaluateAll rules row args))
      ((pick (requestsOfAll rules row args) (consulted (evaluateAll rules row args))).map .ask) := by
  have read := readIn_yields leftward [] members rfl
  rw [requestsOfAll_eq_map, evaluateAll_eq_map, pick_eq_flatMap _ (ascending _), List.zipIdx_map, List.flatMap_map]
  exact read

/-- An application yields the outcome of its function, whatever was evaluated before. -/
theorem application_yields {f : Builtin} {args : List Expr}
    (members : ∀ e ∈ args, EvaluatesIn evictions rules row e) :
    Yields evictions rules (readIn evictions row f.consulted [] args >>= f.applyIn evictions)
      (f.apply rules (evaluateAll rules row args))
      ((pick (requestsOfAll rules row args) (f.consulted (evaluateAll rules row args)) ++
        f.ownRequest (evaluateAll rules row args)).map .ask) := by
  have applied := applyIn_yields evictions rules f
    (masked f.consulted (evaluateAll rules row args))
  rw [(consulted_suffices rules f).apply_masked, (consulted_suffices_ownRequest f).apply_masked] at applied
  rw [List.map_append]
  exact (readIn_yields_pick (consulted_leftward f) (consulted_ascending f) members).bind applied

/-- An expression evaluates to its outcome, whatever was evaluated before, and asks for its patterns in order. -/
theorem evaluateIn_yields (evictions : Evictions) (rules : RegexRules) (row : Row) (e : Expr) :
    EvaluatesIn evictions rules row e := by
  induction e with
  | field path => exact yields_pure _
  | constant v => exact yields_pure _
  | call f args ih => exact application_yields ih
  | condition f args _ ih => exact application_yields ih
  | list items ih =>
    have decides : Decides (countUpTo (!hasValue ·)) collectItems := decides_of_sameUpTo fun _ _ => collectItems_congr
    have read := readIn_yields_pick decides.leftward (fun _ => List.pairwise_lt_range) ih
    rw [EvaluatesIn, evaluate, requests, ← decides.suffices.apply_masked]
    exact read.bind_pure fun outcomes => Outcome.ofExcept ((collectItems outcomes).map .array)

/-- An error is recorded once, after the patterns have been asked for. -/
theorem observeIn_yields (evictions : Evictions) (rules : RegexRules) (row : Row) (e : Expr) :
    Yields evictions rules (observeIn evictions row e) (evaluate rules row e)
      (Evaluation.acts ⟨requests rules row e, (evaluate rules row e).error?⟩) := by
  refine (evaluateIn_yields evictions rules row e).bind ?_
  cases evaluate rules row e with
  | error error => exact fun _ _ => rfl
  | value v => exact yields_pure _
  | absent => exact yields_pure _

end Evaluation
end DocQuery
