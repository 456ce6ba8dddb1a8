import Mathlib.Data.List.Induction
import DocQuery.Eval.Evaluate
import DocQuery.Proofs.Eval.Predicates

/-! The errors of functions depend on little of their operands: on nothing within a map, and on an array only through
its length. What is left of an operand without the rest is its face, and operands of one face lead to one error. -/
namespace DocQuery

namespace Value

/-- What an error can depend on: a map without its entries, an array as so many nulls, another value in full. -/
def face : Value → Value
  | map _ => map []
  | array items => array (items.map fun _ => null)
  | v => v

end Value

namespace Outcome

def face : Outcome → Outcome
  | value v => value v.face
  | o => o

/-- What is read of an operand is read of its face, if it does not look into arrays and maps. -/
theorem read_face (read : Outcome → α)
    (arrays : ∀ items others, read (.value (.array items)) = read (.value (.array others)))
    (maps : ∀ entries others, read (.value (.map entries)) = read (.value (.map others))) (o : Outcome) :
    read o.face = read o := by
  cases o with
  | value v =>
    cases v with
    | array items => exact arrays _ items
    | map entries => exact maps _ entries
    | _ => rfl
  | _ => rfl

variable (f : Builtin) (o : Outcome)

theorem face_isError : o.face.isError = o.isError := read_face isError (fun _ _ => rfl) (fun _ _ => rfl) o

theorem face_error? : o.face.error? = o.error? := read_face error? (fun _ _ => rfl) (fun _ _ => rfl) o

theorem face_isTrue : o.face.isTrue = o.isTrue := read_face isTrue (fun _ _ => rfl) (fun _ _ => rfl) o

theorem face_truth : o.face.truth f = o.truth f := read_face (truth f) (fun _ _ => rfl) (fun _ _ => rfl) o

theorem face_string : o.face.string f = o.string f := read_face (string f) (fun _ _ => rfl) (fun _ _ => rfl) o

theorem face_integer : o.face.integer f = o.integer f := read_face (integer f) (fun _ _ => rfl) (fun _ _ => rfl) o

theorem face_number : o.face.number f = o.number f := read_face (number f) (fun _ _ => rfl) (fun _ _ => rfl) o

theorem face_vector : o.face.vector f = o.vector f := read_face (vector f) (fun _ _ => rfl) (fun _ _ => rfl) o

theorem face_timestamp : o.face.timestamp f = o.timestamp f :=
  read_face (timestamp f) (fun _ _ => rfl) (fun _ _ => rfl) o

theorem face_reference : o.face.reference f = o.reference f :=
  read_face (reference f) (fun _ _ => rfl) (fun _ _ => rfl) o

theorem face_array : o.face.array f = (o.array f).map fun items => items.map fun _ => .null := by
  cases o with
  | value v => cases v <;> rfl
  | _ => rfl

end Outcome

/-- The error of a result, if it is one. -/
def fault? (result : Except EvalError α) : Option EvalError :=
  match result with
  | .ok _ => none
  | .error e => some e

theorem error?_ofExcept (result : Except EvalError Value) : (Outcome.ofExcept result).error? = fault? result := by
  cases result <;> rfl

theorem fault?_map (result : Except EvalError α) (g : α → β) : fault? (result.map g) = fault? result := by
  cases result <;> rfl

/-- If what comes next fails in one way for every value, no value matters. -/
theorem fault?_bind {result : Except EvalError α} {next : α → Except EvalError β} {fault : Option EvalError}
    (same : ∀ a, fault? (next a) = fault) : fault? (result >>= next) = (fault? result).or fault := by
  cases result with
  | ok a => exact same a
  | error e => rfl

theorem fault?_bind_pure (result : Except EvalError α) (g : α → β) :
    fault? (do return g (← result)) = fault? result :=
  fault?_map result g

theorem fault?_array_face (f : Builtin) (o : Outcome) : fault? (o.face.array f) = fault? (o.array f) :=
  Outcome.read_face (fun o => fault? (o.array f)) (fun _ _ => rfl) (fun _ _ => rfl) o

theorem fault?_entries_face (f : Builtin) (o : Outcome) : fault? (o.face.entries f) = fault? (o.entries f) :=
  Outcome.read_face (fun o => fault? (o.entries f)) (fun _ _ => rfl) (fun _ _ => rfl) o

section Predicates

variable (o : Outcome) (args : List Outcome)

theorem Relation.error?_apply (r : Relation) (a b : Outcome) : (r.apply a b).error? = a.error?.or b.error? := by
  cases a <;> cases b <;> rfl

theorem Inspection.error?_apply (i : Inspection) : (i.apply o).error? = o.error? := by
  cases o <;> rfl

theorem fault?_presentValues : fault? (presentValues args) = args.findSome? Outcome.error? := by
  induction args with
  | nil => rfl
  | cons o rest ih =>
    cases o with
    | error e => rfl
    | absent => exact ih
    | value v =>
      rw [presentValues, fault?_bind_pure, ih]
      rfl

theorem fault?_candidates : fault? (candidates args) = args.findSome? Outcome.error? := by
  match args with
  | [] => rfl
  | [.error e] => rfl
  | [.absent] => rfl
  | [.value v] => cases v <;> rfl
  | a :: b :: rest => rw [candidates_several, fault?_bind_pure, fault?_presentValues]

theorem Membership.error?_apply (m : Membership) :
    (m.apply o args).error? = (args.findSome? Outcome.error?).or o.error? := by
  rw [← fault?_candidates]
  unfold apply
  cases candidates args with
  | error e => rfl
  | ok items => cases o <;> cases items <;> rfl

theorem Containment.error?_inArray (wanted : Outcome) : (inArray o wanted).error? = o.error?.or wanted.error? := by
  cases o with
  | value v => cases v <;> cases wanted <;> rfl
  | _ => cases wanted <;> rfl

theorem Containment.error?_severalInArray (c : Containment) :
    (c.severalInArray o args).error? = (args.findSome? Outcome.error?).or o.error? := by
  rw [← fault?_candidates]
  unfold severalInArray
  cases candidates args with
  | error e => rfl
  | ok items =>
    cases o with
    | value v => cases v <;> cases items <;> rfl
    | _ => cases items <;> rfl

theorem findSome?_error?_face : (args.map Outcome.face).findSome? Outcome.error? = args.findSome? Outcome.error? := by
  rw [List.findSome?_map]
  exact congrArg (args.findSome? ·) (funext Outcome.face_error?)

end Predicates

section Connectives

variable (f : Builtin) (args : List Outcome)

theorem Connective.dominated_face (dominant : Bool) (fault : Option EvalError) :
    dominated f dominant fault (args.map Outcome.face) = dominated f dominant fault args := by
  induction args generalizing fault with
  | nil => rfl
  | cons o rest ih => simp only [List.map_cons, dominated, Outcome.face_truth, ih]

theorem Connective.parity_face (odd : Bool) : parity f odd (args.map Outcome.face) = parity f odd args := by
  induction args generalizing odd with
  | nil => rfl
  | cons o rest ih => simp only [List.map_cons, parity, Outcome.face_truth, ih]

theorem Connective.apply_face (c : Connective) : c.apply (args.map Outcome.face) = c.apply args := by
  cases c with
  | and => exact dominated_face _ args _ _
  | or => exact dominated_face _ args _ _
  | xor => exact parity_face _ args _
  | not =>
    match args with
    | [] => rfl
    | [o] => simp only [List.map_cons, List.map_nil, apply, negate, Outcome.face_truth]
    | _ :: _ :: rest => simp [apply]

theorem error?_conditional (test yes no : Outcome) : (conditional test yes no).error? =
    test.error?.or (if test.isTrue then yes.error? else no.error?) := by
  cases test with
  | error e => rfl
  | value v => exact apply_ite Outcome.error? ((Outcome.value v).isTrue = true) yes no
  | absent => rfl

theorem error?_ifError (tried fallback : Outcome) :
    (ifError tried fallback).error? = if tried.isError then fallback.error? else none := by
  cases tried <;> rfl

theorem Selection.error?_apply_face (s : Selection) :
    (s.apply (args.map Outcome.face)).error? = (s.apply args).error? := by
  cases s with
  | maximum | minimum => rfl
  | isError =>
    match args with
    | [] | [_] => rfl
    | _ :: _ :: rest => simp [apply]
  | ifError =>
    match args with
    | [] | [_] => rfl
    | [tried, fallback] =>
      simp only [List.map_cons, List.map_nil, apply, error?_ifError, Outcome.face_isError, Outcome.face_error?]
    | _ :: _ :: _ :: rest => simp [apply]
  | cond =>
    match args with
    | [] | [_] | [_, _] => rfl
    | [test, yes, no] =>
      simp only [List.map_cons, List.map_nil, apply, error?_conditional, Outcome.face_isTrue, Outcome.face_error?]
    | _ :: _ :: _ :: _ :: rest => simp [apply]

end Connectives

section Readers

variable (f : Builtin) (args : List Outcome)

theorem Arithmetic.foldFrom_face (op : Arithmetic) (total : Number) :
    op.foldFrom total (args.map Outcome.face) = op.foldFrom total args := by
  induction args generalizing total with
  | nil => rfl
  | cons o rest ih => simp only [List.map_cons, foldFrom, Outcome.face_number, ih]

theorem Arithmetic.apply_face (op : Arithmetic) : op.apply (args.map Outcome.face) = op.apply args := by
  have fold : op.fold (args.map Outcome.face) = op.fold args := by
    cases args with
    | nil => rfl
    | cons o rest => simp only [List.map_cons, Arithmetic.fold, Outcome.face_number, foldFrom_face]
  cases op with
  | add | multiply => simp only [apply, fold]
  | subtract | divide | mod =>
    match args with
    | [] | [_] => rfl
    | [a, b] => simp only [List.map_cons, List.map_nil, apply, binary, Outcome.face_number]
    | _ :: _ :: _ :: rest => simp [apply]

theorem TextFunction.join_face : join f (args.map Outcome.face) = join f args := by
  induction args with
  | nil => rfl
  | cons o rest ih => simp only [List.map_cons, join, Outcome.face_string, ih]

theorem TextFunction.countChars_face (o : Outcome) : countChars f o.face = countChars f o :=
  Outcome.read_face (countChars f) (fun _ _ => rfl) (fun _ _ => rfl) o

theorem TextFunction.countBytes_face (o : Outcome) : countBytes f o.face = countBytes f o :=
  Outcome.read_face (countBytes f) (fun _ _ => rfl) (fun _ _ => rfl) o

theorem TextFunction.apply_face (t : TextFunction) : t.apply (args.map Outcome.face) = t.apply args := by
  cases t with
  | concat => simp only [apply, join_face]
  | charLength | byteLength | toLower | toUpper | trim | reverse =>
    match args with
    | [] => rfl
    | [o] =>
      simp only [List.map_cons, List.map_nil, apply, transform, countChars_face, countBytes_face, Outcome.face_string]
    | _ :: _ :: rest => simp [apply]
  | contains | startsWith | endsWith =>
    match args with
    | [] | [_] => rfl
    | [text, needle] => simp only [List.map_cons, List.map_nil, apply, search, Outcome.face_string]
    | _ :: _ :: _ :: rest => simp [apply]
  | replaceFirst | replaceAll =>
    match args with
    | [] | [_] | [_, _] => rfl
    | [text, find, new] => simp only [List.map_cons, List.map_nil, apply, replace, Outcome.face_string]
    | _ :: _ :: _ :: _ :: rest => simp [apply]
  | substr =>
    match args with
    | [] | [_] => rfl
    | [text, position] =>
      simp only [List.map_cons, List.map_nil, apply, cut, Outcome.face_string, Outcome.face_integer]
    | [text, position, length] =>
      have count (f : Builtin) : (some length.face).mapM (Outcome.integer f) = (some length).mapM (Outcome.integer f) :=
        congrArg (some <$> ·) (length.face_integer f)
      simp only [List.map_cons, List.map_nil, apply, cut, Outcome.face_string, Outcome.face_integer, count]
    | _ :: _ :: _ :: _ :: rest => simp [apply]

theorem PatternTest.apply_face (rules : RegexRules) (p : PatternTest) (text pattern : Outcome) :
    p.apply rules text.face pattern.face = p.apply rules text pattern := by
  simp only [apply, Outcome.face_string]

theorem VectorFunction.apply_face (v : VectorFunction) : v.apply (args.map Outcome.face) = v.apply args := by
  match args with
  | [] => cases v <;> rfl
  | [o] => cases v <;> simp only [List.map_cons, List.map_nil, apply, count, Outcome.face_vector, List.length_cons]
  | [left, right] => cases v <;> simp only [List.map_cons, List.map_nil, apply, distance, Outcome.face_vector]
  | _ :: _ :: _ :: rest => cases v <;> simp [apply]

theorem TimeFunction.apply_face (t : TimeFunction) : t.apply (args.map Outcome.face) = t.apply args := by
  cases t with
  | ofUnix | toUnix =>
    match args with
    | [] => rfl
    | [o] =>
      simp only [List.map_cons, List.map_nil, apply, ofUnixNumber, toUnixNumber, Outcome.face_integer,
        Outcome.face_timestamp]
    | _ :: _ :: rest => simp [apply]
  | add | sub =>
    match args with
    | [] | [_] | [_, _] => rfl
    | [time, unit, amount] =>
      simp only [List.map_cons, List.map_nil, apply, shift, Outcome.face_timestamp, Outcome.face_string,
        Outcome.face_integer]
    | _ :: _ :: _ :: _ :: rest => simp [apply]

end Readers

section Collections

variable (f : Builtin) (args : List Outcome)

namespace CollectionFunction

theorem fault?_join : fault? (join f args) = args.findSome? fun o => fault? (o.array f) := by
  induction args with
  | nil => rfl
  | cons o rest ih =>
    rw [join, fault?_bind fun items => fault?_bind_pure (join f rest) (items ++ ·), ih, List.findSome?_cons]
    cases fault? (o.array f) <;> rfl

theorem fault?_merge (entries : Fields) :
    fault? (merge f entries args) = args.findSome? fun o => fault? (o.entries f) := by
  induction args generalizing entries with
  | nil => rfl
  | cons o rest ih =>
    rw [merge, fault?_bind fun more => ih (Entries.extend entries more), List.findSome?_cons]
    cases fault? (o.entries f) <;> rfl

theorem fault?_pairs_face : fault? (pairs f (args.map Outcome.face)) = fault? (pairs f args) := by
  induction args using List.twoStepInduction with
  | nil => rfl
  | singleton => rfl
  | cons_cons key value args ih =>
    simp only [List.map_cons, pairs, Outcome.face_string]
    cases key.string f with
    | error e => rfl
    | ok k =>
      cases value with
      | error e => rfl
      | absent => exact ih
      | value v => exact (fault?_bind_pure _ _).trans (ih.trans (fault?_bind_pure _ _).symm)

theorem error?_getEntry (m key : Outcome) :
    (getEntry f m key).error? = (fault? (m.entries f)).or (fault? (key.string f)) := by
  unfold getEntry
  cases m.entries f with
  | error e => rfl
  | ok entries =>
    cases key.string f with
    | error e => rfl
    | ok k =>
      dsimp only [bind, Except.bind, pure, Except.pure]
      cases Entries.find? k entries <;> rfl

theorem fault?_removeEntry (m key : Outcome) :
    fault? (removeEntry f m key) = (fault? (m.entries f)).or (fault? (key.string f)) :=
  fault?_bind fun entries => fault?_bind_pure (key.string f) fun k => Value.map (Entries.erase k entries)

/-- Whether there is an item at a place depends on the number of items only. -/
theorem isSome_itemAt? (items : List Value) (index : Int) :
    (itemAt? (items.map fun _ => .null) index).isSome = (itemAt? items index).isSome := by
  simp only [itemAt?, List.length_map, List.getElem?_map]
  generalize (if index < 0 then items.length + index else index) = position
  by_cases inside : 0 ≤ position
  · simp only [if_pos inside, Option.isSome_map]
  · simp only [if_neg inside]

theorem fault?_getItem_face (array index : Outcome) :
    fault? (getItem f array.face index.face) = fault? (getItem f array index) := by
  unfold getItem
  rw [array.face_array, index.face_integer]
  cases array.array f with
  | error e => rfl
  | ok items =>
    cases index.integer f with
    | error e => rfl
    | ok i =>
      have same := isSome_itemAt? items i.toInt
      dsimp only [bind, Except.bind, Except.map]
      generalize itemAt? (items.map fun _ => .null) i.toInt = hidden at same ⊢
      generalize itemAt? items i.toInt = found at same ⊢
      cases hidden with
      | none =>
        cases found with
        | none => rfl
        | some v => contradiction
      | some w =>
        cases found with
        | none => contradiction
        | some v => rfl

theorem error?_apply_face (c : CollectionFunction) :
    (c.apply (args.map Outcome.face)).error? = (c.apply args).error? := by
  cases c with
  | arrayLength | arrayReverse =>
    match args with
    | [] => rfl
    | [o] => simp only [List.map_cons, List.map_nil, apply, error?_ofExcept, fault?_map, fault?_array_face]
    | _ :: _ :: rest => simp [apply]
  | arrayConcat =>
    simp only [apply, error?_ofExcept, fault?_map, fault?_join, List.findSome?_map, Function.comp_def,
      fault?_array_face]
  | mapMerge =>
    simp only [apply, error?_ofExcept, fault?_map, fault?_merge, List.findSome?_map, Function.comp_def,
      fault?_entries_face]
  | map => simp only [apply, error?_ofExcept, fault?_map, fault?_pairs_face]
  | arrayGet =>
    match args with
    | [] | [_] => rfl
    | [array, index] => simp only [List.map_cons, List.map_nil, apply, error?_ofExcept, fault?_getItem_face]
    | _ :: _ :: _ :: rest => simp [apply]
  | mapGet =>
    match args with
    | [] | [_] => rfl
    | [m, key] =>
      simp only [List.map_cons, List.map_nil, apply, error?_getEntry, fault?_entries_face, Outcome.face_string]
    | _ :: _ :: _ :: rest => simp [apply]
  | mapRemove =>
    match args with
    | [] | [_] => rfl
    | [m, key] =>
      simp only [List.map_cons, List.map_nil, apply, error?_ofExcept, fault?_removeEntry, fault?_entries_face,
        Outcome.face_string]
    | _ :: _ :: _ :: rest => simp [apply]

end CollectionFunction

end Collections

section Application

variable (rules : RegexRules) (f : Builtin) (args : List Outcome)

theorem Builtin.error?_run_face : (f.run rules (args.map Outcome.face)).error? = (f.run rules args).error? := by
  cases f with
  | relation r =>
    match args with
    | [] | [_] => rfl
    | [a, b] => simp only [List.map_cons, List.map_nil, run, Relation.error?_apply, Outcome.face_error?]
    | _ :: _ :: _ :: rest => simp [run]
  | inspection i =>
    match args with
    | [] => rfl
    | [o] => simp only [List.map_cons, List.map_nil, run, Inspection.error?_apply, Outcome.face_error?]
    | _ :: _ :: rest => simp [run]
  | membership m =>
    match args with
    | [] => rfl
    | search :: rest =>
      simp only [List.map_cons, run, Membership.error?_apply, findSome?_error?_face, Outcome.face_error?]
  | containment c =>
    have several (array : Outcome) (wanted : List Outcome) :
        (c.severalInArray array.face (wanted.map Outcome.face)).error? = (c.severalInArray array wanted).error? := by
      simp only [Containment.error?_severalInArray, findSome?_error?_face, Outcome.face_error?]
    match c, args with
    | _, [] => cases c <;> rfl
    | .all, array :: wanted => exact several array wanted
    | .any, array :: wanted => exact several array wanted
    | .element, [array] => exact several array []
    | .element, [array, wanted] =>
      simp only [List.map_cons, List.map_nil, run, Containment.error?_inArray, Outcome.face_error?]
    | .element, array :: a :: b :: rest => exact several array (a :: b :: rest)
  | connective c => exact congrArg Outcome.error? (c.apply_face args)
  | selection s => exact s.error?_apply_face args
  | arithmetic op => exact congrArg Outcome.error? (op.apply_face args)
  | text t => exact congrArg Outcome.error? (t.apply_face args)
  | pattern p =>
    match args with
    | [] | [_] => rfl
    | [s, t] => exact congrArg (fun x => (Outcome.ofExcept x).error?) (p.apply_face rules s t)
    | _ :: _ :: _ :: rest => simp [run]
  | collection c => exact c.error?_apply_face args
  | vector v => exact congrArg Outcome.error? (v.apply_face args)
  | time t => exact congrArg Outcome.error? (t.apply_face args)
  | documentId =>
    match args with
    | [] => rfl
    | [o] => simp only [List.map_cons, List.map_nil, run, Outcome.face_reference]
    | _ :: _ :: rest => simp [run]

/-- Operands of one face lead a function to one error. -/
theorem Builtin.error?_apply_face : (f.apply rules (args.map Outcome.face)).error? = (f.apply rules args).error? := by
  rw [apply, apply, List.length_map]
  split
  · exact f.error?_run_face rules args
  · rfl

/-- The error that an item of a list leads to. -/
def itemFault : Outcome → Option EvalError
  | .value _ => none
  | .absent => some .absentItem
  | .error e => some e

theorem fault?_collectItems : fault? (collectItems args) = args.findSome? itemFault := by
  induction args with
  | nil => rfl
  | cons o rest ih =>
    cases o with
    | value v =>
      rw [collectItems, fault?_bind_pure, ih]
      rfl
    | _ => rfl

theorem fault?_collectItems_face : fault? (collectItems (args.map Outcome.face)) = fault? (collectItems args) := by
  have item (o : Outcome) : itemFault o.face = itemFault o := by
    cases o <;> rfl
  simp only [fault?_collectItems, List.findSome?_map, Function.comp_def, item]

end Application

end DocQuery
