import DocQuery.Proofs.Eval.Evaluate
import DocQuery.Proofs.Machine.Texts

/-! Evaluating expressions on the machine. The number of operands is checked before any of them is taken by its
position, so that the machine does not stop whatever the operands are. -/
namespace DocQuery
namespace Machine

variable {α β : Type}

section Operands

/-- How a function takes its operands: one after another, or by their positions. -/
inductive Reading where
  | each
  | first (n : Nat)
  | firstAndRest
  | pairs
  | upToThird

/-- The chunks of two that a list begins with. -/
def pairsOf : List α → List (List α)
  | a :: b :: rest => [a, b] :: pairsOf rest
  | _ => []

namespace Reading

def read (args : List α) : Reading → Run (List α)
  | each => return args
  | first n => (List.range n).mapM (item args)
  | firstAndRest => do return (← item args 0) :: (← part args 1 args.length)
  | pairs => do return (← (pairsOf args).mapM fun pair => do return [← item pair 0, ← item pair 1]).flatten
  | upToThird => do return [← item args 0, ← item args 1] ++ args[2]?.toList

/-- Whether there are operands at all positions that are read, and at no others. -/
def suits (n : Nat) : Reading → Prop
  | each => True
  | first k => n = k
  | firstAndRest => 1 ≤ n
  | pairs => n % 2 = 0
  | upToThird => n = 2 ∨ n = 3

end Reading

def reading : Builtin → Reading
  | .relation _ => .first 2
  | .inspection _ => .first 1
  | .membership _ => .firstAndRest
  | .containment .element => .first 2
  | .containment _ => .firstAndRest
  | .connective .not => .first 1
  | .connective _ => .each
  | .selection .isError => .first 1
  | .selection .ifError => .first 2
  | .selection .cond => .first 3
  | .selection _ => .each
  | .arithmetic .add | .arithmetic .multiply => .firstAndRest
  | .arithmetic _ => .first 2
  | .text .charLength | .text .byteLength => .first 1
  | .text .toLower | .text .toUpper | .text .trim | .text .reverse => .first 1
  | .text .concat => .each
  | .text .substr => .upToThird
  | .text .replaceFirst | .text .replaceAll => .first 3
  | .text _ => .first 2
  | .pattern _ => .first 2
  | .collection .arrayLength | .collection .arrayReverse => .first 1
  | .collection .arrayConcat | .collection .mapMerge => .each
  | .collection .map => .pairs
  | .collection _ => .first 2
  | .vector .length => .first 1
  | .vector _ => .first 2
  | .time (.ofUnix _) | .time (.toUnix _) => .first 1
  | .time _ => .first 3
  | .documentId => .first 1

theorem mapM_item (front args : List α) :
    (List.range' front.length args.length).mapM (item (front ++ args)) = .ok args := by
  induction args generalizing front with
  | nil => rfl
  | cons a args ih =>
    have here : item (front ++ a :: args) front.length = .ok a := by
      rw [item_eq (by simp), List.getElem_append_right (Nat.le_refl _)]
      simp
    have later := ih (front ++ [a])
    rw [List.length_append, List.length_singleton, ← List.append_cons] at later
    rw [List.length_cons, List.range'_succ, List.mapM_cons, here]
    exact congrArg (· >>= fun items => pure (a :: items)) later

theorem mapM_eq {f : α → Run β} {g : α → β} {items : List α} (h : ∀ a ∈ items, f a = .ok (g a)) :
    items.mapM f = .ok (items.map g) := by
  induction items with
  | nil => rfl
  | cons a items ih =>
    rw [List.mapM_cons, h a List.mem_cons_self, ih fun b member => h b (List.mem_cons_of_mem a member)]
    rfl

theorem mem_pairsOf {args pair : List α} (h : pair ∈ pairsOf args) : ∃ a b, pair = [a, b] := by
  fun_induction pairsOf args with
  | case1 a b rest ih =>
    rcases List.mem_cons.mp h with rfl | member
    · exact ⟨a, b, rfl⟩
    · exact ih member
  | case2 => cases h

theorem flatten_pairsOf {args : List α} (even : args.length % 2 = 0) : (pairsOf args).flatten = args := by
  fun_induction pairsOf args with
  | case1 a b rest ih =>
    rw [List.length_cons, List.length_cons] at even
    rw [List.flatten_cons, ih (by omega)]
    rfl
  | case2 args short =>
    match args, short with
    | [], _ => rfl
    | [a], _ => cases even
    | a :: b :: rest, short => exact absurd rfl (short a b rest)

/-- Where there are operands at the positions that are read, they are what is read. -/
theorem Reading.read_eq {reading : Reading} {args : List α} (h : reading.suits args.length) :
    reading.read args = .ok args := by
  cases reading with
  | each => rfl
  | first n =>
    obtain rfl : args.length = n := h
    rw [read, List.range_eq_range']
    exact mapM_item [] args
  | firstAndRest =>
    obtain ⟨a, rest, rfl⟩ := List.exists_cons_of_length_pos h
    have others : part (a :: rest) 1 (a :: rest).length = .ok rest := by
      rw [part_eq (by simp) (Nat.le_refl _)]
      simp
    rw [read, item_eq (Nat.succ_pos _), others]
    rfl
  | pairs =>
    have taken : ((pairsOf args).mapM fun pair => do return [← item pair 0, ← item pair 1]) =
        .ok ((pairsOf args).map id) := by
      refine mapM_eq fun pair member => ?_
      obtain ⟨a, b, rfl⟩ := mem_pairsOf member
      rfl
    rw [read, taken, List.map_id]
    exact congrArg Except.ok (flatten_pairsOf h)
  | upToThird =>
    rcases h with two | three
    · obtain ⟨a, b, rfl⟩ := List.length_eq_two.mp two
      rfl
    · obtain ⟨a, b, c, rfl⟩ := List.length_eq_three.mp three
      rfl

/-- What the number of operands is checked for is enough for taking them. -/
theorem reading_suits {f : Builtin} {n : Nat} (h : f.arity.admits n) : (reading f).suits n := by
  cases f with
  | relation | inspection | membership | pattern | documentId =>
    simp [Builtin.arity, Arity.admits] at h
    simp only [reading, Reading.suits]
    omega
  | time x => cases x <;> simp_all [Builtin.arity, Arity.admits, reading, Reading.suits]
  | containment x | connective x | selection x | arithmetic x | text x | collection x | vector x =>
    cases x <;> simp [Builtin.arity, Arity.admits] at h <;> simp [reading, Reading.suits] <;> omega

end Operands

section Functions

/-- A computation of the machine that may find a fault in its operands. -/
abbrev Attempt := ExceptT EvalError Run

def take (x : Except EvalError α) : Attempt α := ExceptT.mk (pure x)

def sliced (s : List Char) (start : Int64) (count : Option Int64) : Run (List Char) :=
  held (byteSize s < 0x8000000000000000) (fun fits => slice ⟨s, fits⟩ start.toInt (count.map Int64.toInt))
    (TextFunction.slice s start.toInt (count.map Int64.toInt))

def cut (f : Builtin) (text position : Outcome) (length : Option Outcome) : Attempt Value := do
  let s ← take (text.string f)
  let start ← take (position.integer f)
  let count ← take (length.mapM (Outcome.integer f))
  if count.any fun n => n.toInt < 0 then throw (.invalidArgument f .negativeLength)
  return .string (.ofList (← sliced s.toList start count))

def accepts (text : List Char) : Pattern → Run Bool
  | .containing needle =>
    held (byteSize text < 0x8000000000000000 ∧ byteSize needle < 0x8000000000000000)
      (fun fits => containsOnLine ⟨text, fits.1⟩ ⟨needle, fits.2⟩) (Pattern.containsOnLine needle text)
  | pattern => return pattern.accepts text

def test (rules : RegexRules) (p : PatternTest) (text pattern : Outcome) : Attempt Value := do
  let s ← take (text.string (.pattern p))
  let t ← take (pattern.string (.pattern p))
  match Pattern.compile rules p.kind t with
  | .ok compiled => return .boolean (← accepts s.toList compiled)
  | .error fault => throw (.invalidPattern t fault)

def itemOf (items : List Value) (i : Int64) : Run (Option Value) :=
  held (items.length < 0x8000000000000000) (fun fits => itemAt ⟨items, fits⟩ i.toInt)
    (CollectionFunction.itemAt? items i.toInt)

def getItem (f : Builtin) (array index : Outcome) : Attempt Value := do
  let items ← take (array.array f)
  let i ← take (index.integer f)
  match ← itemOf items i with
  | some v => return v
  | none => throw (.outOfRange f)

def ofUnix (unit : TimeUnit) (o : Outcome) : Attempt Value := do
  let f := Builtin.time (.ofUnix unit)
  let n ← take (o.integer f)
  take (TimeFunction.inRange f (← ofUnixNumber unit n.toInt))

def toUnix (unit : TimeUnit) (o : Outcome) : Attempt Value := do
  let t ← take (o.timestamp (.time (.toUnix unit)))
  return .integer (Int64.ofInt (← unixNumber unit t.seconds t.nanos))

def shift (f : Builtin) (sign : Int) (time unit amount : Outcome) : Attempt Value := do
  let t ← take (time.timestamp f)
  let u ← take (unit.string f)
  let n ← take (amount.integer f)
  match TimeFunction.unitMicros? u with
  | none => throw (.invalidArgument f (.unknownTimeUnit u))
  | some micros => take (TimeFunction.inRange f (← moved t sign n.toInt micros))

def idOf (o : Outcome) : Attempt Value := do
  let key ← take (o.reference .documentId)
  return .string (← documentId key.path)

def settle (x : Attempt Value) : Run Outcome := Outcome.ofExcept <$> x.run

/-- The functions that compute positions, products or parts of texts have code of their own; no other can stop. -/
def compute (rules : RegexRules) (f : Builtin) (args : List Outcome) : Run Outcome :=
  match f, args with
  | .text .substr, [text, position] => settle (cut f text position none)
  | .text .substr, [text, position, length] => settle (cut f text position (some length))
  | .pattern p, [text, pattern] => settle (test rules p text pattern)
  | .collection .arrayGet, [array, index] => settle (getItem f array index)
  | .time (.ofUnix unit), [o] => settle (ofUnix unit o)
  | .time (.toUnix unit), [o] => settle (toUnix unit o)
  | .time .add, [time, unit, amount] => settle (shift f 1 time unit amount)
  | .time .sub, [time, unit, amount] => settle (shift f (-1) time unit amount)
  | .documentId, [o] => settle (idOf o)
  | f, args => return f.run rules args

def apply (rules : RegexRules) (f : Builtin) (args : List Outcome) : Run Outcome :=
  if f.arity.admits args.length then do compute rules f (← (reading f).read args)
  else return .error (.arity f args.length)

/-- The machine does not stop, and finds what is to be found. -/
def Finds (x : Attempt α) (y : Except EvalError α) : Prop := x.run = .ok y

variable {x : Run α} {a : α} {y : Except EvalError α}

theorem finds_pure (a : α) : Finds (pure a) (.ok a) := rfl

theorem finds_throw (e : EvalError) : Finds (throw e : Attempt α) (.error e) := rfl

theorem finds_take (y : Except EvalError α) : Finds (take y) y := rfl

theorem Finds.bind {x : Attempt α} {f : α → Attempt β} {g : α → Except EvalError β} (first : Finds x y)
    (next : ∀ a, Finds (f a) (g a)) : Finds (x >>= f) (y >>= g) := by
  have run : (x >>= f).run = x.run >>= ExceptT.bindCont f := rfl
  rw [Finds, run, first]
  cases y with
  | error e => rfl
  | ok a => exact next a

/-- A step of the machine that does not stop has no fault either. -/
theorem finds_step {f : α → Attempt β} {z : Except EvalError β} (h : x = .ok a) (next : Finds (f a) z) :
    Finds (liftM x >>= f) z := by
  subst h
  exact next

theorem cut_finds (f : Builtin) (text position : Outcome) (length : Option Outcome) :
    Finds (cut f text position length) (TextFunction.cut f text position length) := by
  refine (finds_take _).bind fun s => (finds_take _).bind fun start => (finds_take _).bind fun count => ?_
  by_cases negative : count.any fun n => n.toInt < 0
  · rw [if_pos negative, if_pos negative]
    exact finds_throw _
  · rw [if_neg negative, if_neg negative]
    have counts : ∀ n ∈ count, 0 ≤ n.toInt := by
      rintro n rfl
      simpa using negative
    exact finds_step (held_eq fun fits => slice_eq ⟨s.toList, fits⟩ start count counts) (finds_pure _)

theorem accepts_eq (text : List Char) (pattern : Pattern) : accepts text pattern = .ok (pattern.accepts text) := by
  cases pattern with
  | containing needle => exact held_eq fun fits => containsOnLine_eq ⟨text, fits.1⟩ ⟨needle, fits.2⟩
  | _ => rfl

theorem test_finds (rules : RegexRules) (p : PatternTest) (text pattern : Outcome) :
    Finds (test rules p text pattern) (p.apply rules text pattern) := by
  refine (finds_take _).bind fun s => (finds_take _).bind fun t => ?_
  cases Pattern.compile rules p.kind t with
  | ok compiled => exact finds_step (accepts_eq s.toList compiled) (finds_pure _)
  | error fault => exact finds_throw _

theorem getItem_finds (f : Builtin) (array index : Outcome) :
    Finds (getItem f array index) (CollectionFunction.getItem f array index) := by
  refine (finds_take _).bind fun items => (finds_take _).bind fun i => ?_
  refine finds_step (held_eq fun fits => itemAt_eq ⟨items, fits⟩ i) ?_
  cases CollectionFunction.itemAt? items i.toInt with
  | some v => exact finds_pure v
  | none => exact finds_throw _

theorem ofUnix_finds (unit : TimeUnit) (o : Outcome) : Finds (ofUnix unit o) (TimeFunction.ofUnixNumber unit o) :=
  (finds_take _).bind fun n => finds_step (ofUnixNumber_eq unit n) (finds_take _)

theorem toUnix_finds (unit : TimeUnit) (o : Outcome) : Finds (toUnix unit o) (TimeFunction.toUnixNumber unit o) :=
  (finds_take _).bind fun t => finds_step (unixNumber_eq unit t) (finds_pure _)

theorem shift_finds (f : Builtin) {sign : Int} (direction : sign = 1 ∨ sign = -1) (time unit amount : Outcome) :
    Finds (shift f sign time unit amount) (TimeFunction.shift f sign time unit amount) := by
  refine (finds_take _).bind fun t => (finds_take _).bind fun u => (finds_take _).bind fun n => ?_
  cases known : TimeFunction.unitMicros? u with
  | none => exact finds_throw _
  | some micros => exact finds_step (moved_eq t known direction n) (finds_take _)

theorem idOf_finds (o : Outcome) :
    Finds (idOf o) ((o.reference .documentId).map fun key => .string key.documentId) := by
  have in_steps : (o.reference .documentId).map (fun key => Value.string key.documentId) =
      (do return .string (← o.reference .documentId).documentId) := by
    cases o.reference .documentId <;> rfl
  rw [in_steps]
  exact (finds_take _).bind fun key => finds_step (documentId_eq key) (finds_pure _)

theorem settle_eq {x : Attempt Value} {y : Except EvalError Value} (h : Finds x y) : settle x = .ok (.ofExcept y) := by
  rw [settle, h]
  rfl

theorem compute_eq (rules : RegexRules) (f : Builtin) (args : List Outcome) :
    compute rules f args = .ok (f.run rules args) := by
  unfold compute
  split
  · exact settle_eq (cut_finds _ _ _ _)
  · exact settle_eq (cut_finds _ _ _ _)
  · exact settle_eq (test_finds _ _ _ _)
  · exact settle_eq (getItem_finds _ _ _)
  · exact settle_eq (ofUnix_finds _ _)
  · exact settle_eq (toUnix_finds _ _)
  · exact settle_eq (shift_finds _ (.inl rfl) _ _ _)
  · exact settle_eq (shift_finds _ (.inr rfl) _ _ _)
  · exact settle_eq (idOf_finds _)
  · rfl

theorem apply_eq (rules : RegexRules) (f : Builtin) (args : List Outcome) :
    apply rules f args = .ok (f.apply rules args) := by
  rw [apply, Builtin.apply]
  split
  next admitted =>
    rw [Reading.read_eq (reading_suits admitted)]
    exact compute_eq rules f args
  next => rfl

end Functions

section Expressions

variable (rules : RegexRules) (row : Row)

mutual

/-- Evaluates an expression with all of its operands, those too that make no difference to its outcome. -/
def evaluate : Expr → Run Outcome
  | .field path => return row.field path
  | .constant v => return .value v
  | .call f args => do apply rules f (← evaluateAll args)
  | .condition f args _ => do apply rules f (← evaluateAll args)
  | .list items => do return .ofExcept ((collectItems (← evaluateAll items)).map .array)

def evaluateAll : List Expr → Run (List Outcome)
  | [] => return []
  | e :: es => do return (← evaluate e) :: (← evaluateAll es)

end

theorem evaluateAll_eq {es : List Expr}
    (members : ∀ e ∈ es, evaluate rules row e = .ok (DocQuery.evaluate rules row e)) :
    evaluateAll rules row es = .ok (DocQuery.evaluateAll rules row es) := by
  induction es with
  | nil => rfl
  | cons e es ih =>
    rw [evaluateAll, members e List.mem_cons_self, ih fun e' member => members e' (List.mem_cons_of_mem e member)]
    rfl

/-- No expression stops the machine. -/
theorem evaluate_eq (e : Expr) : evaluate rules row e = .ok (DocQuery.evaluate rules row e) := by
  induction e with
  | field path => rfl
  | constant v => rfl
  | call f args ih =>
    rw [evaluate, evaluateAll_eq rules row ih]
    exact apply_eq rules f _
  | condition f args _ ih =>
    rw [evaluate, evaluateAll_eq rules row ih]
    exact apply_eq rules f _
  | list items ih =>
    rw [evaluate, evaluateAll_eq rules row ih]
    rfl

/-- The outcome of an expression, in the engine and on the machine. -/
def Evaluates (e : Expr) (o : Outcome) : Prop :=
  DocQuery.evaluate rules row e = o ∧ evaluate rules row e = .ok o

theorem evaluates_iff {e : Expr} {o : Outcome} : Evaluates rules row e o ↔ DocQuery.evaluate rules row e = o := by
  refine ⟨And.left, fun found => ⟨found, ?_⟩⟩
  rw [evaluate_eq, found]

end Expressions

end Machine
end DocQuery
