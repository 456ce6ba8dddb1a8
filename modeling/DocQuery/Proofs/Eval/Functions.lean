import Mathlib.Data.List.Induction
import DocQuery.Proofs.Eval.Agreement

/-! Functions of numbers, instants, texts, vectors and collections on operands that agree. Those of numbers
see the spelling of their operands, those of texts do not, and those of collections pass it on. -/
namespace DocQuery

variable {legible : DocumentKey → Prop} {exact grade : Bool} {o o' : Outcome} {args args' : List Outcome}

theorem Arithmetic.foldFrom_agree (op : Arithmetic) (total : Number)
    (h : List.Forall₂ (Outcome.Agrees legible true) args args') :
    ResultsAgree Eq (op.foldFrom total args) (op.foldFrom total args') := by
  induction h generalizing total with
  | nil => exact .ok rfl
  | cons first _ ih =>
    rw [foldFrom, foldFrom]
    refine (first.number _).bind_eq fun n => ?_
    refine (ResultsAgree.refl (fun _ => rfl) _).bind_eq fun next => ?_
    exact ih next

theorem Arithmetic.fold_agrees (op : Arithmetic) (h : List.Forall₂ (Outcome.Agrees legible true) args args') :
    ResultsAgree Eq (op.fold args) (op.fold args') := by
  cases h with
  | nil => exact .error _ _
  | cons first rest =>
    rw [fold, fold]
    refine (first.number _).bind_eq fun n => ?_
    exact foldFrom_agree op n rest

theorem Arithmetic.binary_agrees (op : Arithmetic) {a a' b b' : Outcome} (ha : a.Agrees legible true a')
    (hb : b.Agrees legible true b') : ResultsAgree Eq (op.binary a b) (op.binary a' b') := by
  refine (ha.number _).bind_eq fun _ => (hb.number _).bind_eq fun _ => ?_
  exact .refl (fun _ => rfl) _

theorem Arithmetic.apply_agrees (op : Arithmetic)
    (h : List.Forall₂ (Outcome.Agrees legible true) args args') :
    (op.apply args).Agrees legible exact (op.apply args') := by
  have numbers {x y : Except EvalError Number} (same : ResultsAgree Eq x y) :
      (Outcome.ofExcept (x.map Number.toValue)).Agrees legible exact (.ofExcept (y.map Number.toValue)) := by
    refine .ofExcept (same.map fun n _ same => ?_)
    exact Value.Agrees.number_iff.mpr ⟨n, same ▸ rfl, .refl n⟩
  cases op with
  | add => exact numbers (fold_agrees _ h)
  | multiply => exact numbers (fold_agrees _ h)
  | _ =>
    cases h with
    | nil => exact .error _ _
    | cons first rest =>
      cases rest with
      | nil => exact .error _ _
      | cons second rest =>
        cases rest with
        | nil => exact numbers (binary_agrees _ first second)
        | cons => exact .error _ _

theorem VectorFunction.distance_agrees (v : VectorFunction) {a a' b b' : Outcome}
    (ha : a.Agrees legible true a') (hb : b.Agrees legible true b') :
    ResultsAgree (Value.Agrees legible exact) (v.distance a b) (v.distance a' b') := by
  refine (ha.components _).bind_eq fun as => (hb.components _).bind_eq fun bs => ?_
  by_cases size : as.length = bs.length
  · simp only [size, ne_eq, not_true, if_false]
    cases v.measure? as bs with
    | none => exact .error _ _
    | some d =>
      cases hd : d.isNaN
      · simp only [hd]
        exact .ok (.double (.refl _))
      · simp only [hd]
        exact .error _ _
  · simp only [size, ne_eq, not_false_eq_true, if_true]
    exact .error _ _

/-- No distance is measured by length, however numbers are spelled. -/
theorem VectorFunction.length_distance_agrees {a a' b b' : Outcome} (ha : a.Agrees legible grade a')
    (hb : b.Agrees legible grade b') :
    ResultsAgree (Value.Agrees legible exact) (length.distance a b) (length.distance a' b') := by
  refine (ha.vector _).bind fun as as' left => (hb.vector _).bind fun bs bs' right => ?_
  by_cases size : as'.length = bs'.length
  · simp only [left.length_eq, right.length_eq, size, ne_eq, not_true, if_false]
    exact .error _ _
  · simp only [left.length_eq, right.length_eq, size, ne_eq, not_false_eq_true, if_true]
    exact .error _ _

theorem TimeFunction.inRange_agrees (f : Builtin) (t : Option Timestamp) :
    ResultsAgree (Value.Agrees legible exact) (inRange f t) (inRange f t) := by
  cases t with
  | none => exact .error _ _
  | some t => exact .ok (.timestamp t)

theorem TimeFunction.ofUnixNumber_agrees (unit : TimeUnit) (h : o.Agrees legible true o') :
    ResultsAgree (Value.Agrees legible exact) (ofUnixNumber unit o) (ofUnixNumber unit o') := by
  refine (h.integer _).bind_eq fun n => ?_
  exact inRange_agrees _ _

theorem TimeFunction.shift_agrees (f : Builtin) (sign : Int) {unit unit' amount amount' : Outcome}
    (h : o.Agrees legible true o') (hu : unit.Agrees legible true unit')
    (ha : amount.Agrees legible true amount') :
    ResultsAgree (Value.Agrees legible exact) (shift f sign o unit amount)
      (shift f sign o' unit' amount') := by
  refine (h.timestamp f).bind_eq fun t => (hu.string f).bind_eq fun u =>
    (ha.integer f).bind_eq fun n => ?_
  cases unitMicros? u with
  | none => exact .error _ _
  | some micros => exact inRange_agrees _ _

theorem TextFunction.cut_agrees (f : Builtin) {position position' : Outcome} {length length' : Option Outcome}
    (h : o.Agrees legible true o') (hp : position.Agrees legible true position')
    (hl : Option.Rel (Outcome.Agrees legible true) length length') :
    ResultsAgree (Value.Agrees legible exact) (cut f o position length) (cut f o' position' length') := by
  have count : ResultsAgree Eq (length.mapM (Outcome.integer f)) (length'.mapM (Outcome.integer f)) := by
    cases hl with
    | none => exact .ok rfl
    | some hl =>
      exact ResultsAgree.bind_eq (hl.integer f) fun n => .ok rfl
  refine (h.string f).bind_eq fun s => (hp.integer f).bind_eq fun start =>
    count.bind_eq fun count => ?_
  cases hn : count.any fun n => n.toInt < 0
  · exact .ok (.string _)
  · exact .error _ _

theorem CollectionFunction.itemAt?_rel {items items' : List Value} (index : Int)
    (h : List.Forall₂ (Value.Agrees legible exact) items items') :
    Option.Rel (Value.Agrees legible exact) (itemAt? items index) (itemAt? items' index) := by
  have at_position (n : Nat) : Option.Rel (Value.Agrees legible exact) items[n]? items'[n]? := by
    induction h generalizing n with
    | nil => exact .none
    | cons first _ ih =>
      cases n with
      | zero => exact .some first
      | succ n => exact ih n
  simp only [itemAt?, h.length_eq]
  generalize (if index < 0 then items'.length + index else index) = position
  split
  · exact at_position _
  · exact .none

theorem CollectionFunction.getItem_agrees (f : Builtin) {index index' : Outcome}
    (h : o.Agrees legible true o') (hi : index.Agrees legible true index') :
    ResultsAgree (Value.Agrees legible exact) (getItem f o index) (getItem f o' index') := by
  refine (h.array f).bind fun items items' agree => (hi.integer f).bind_eq fun i => ?_
  have found := itemAt?_rel i.toInt agree
  generalize itemAt? items i.toInt = x, itemAt? items' i.toInt = y at found
  cases found with
  | none => exact .error _ _
  | some hv => exact .ok (hv.relax (fun _ => id) fun _ => rfl)

section Texts

variable (f : Builtin)

theorem TextFunction.countChars_agrees (h : o.Agrees legible exact o') :
    ResultsAgree (Value.Agrees legible grade) (countChars f o) (countChars f o') := by
  refine (h.operand f).bind fun v w agree => ?_
  cases agree with
  | null => exact .ok .null
  | string s => exact .ok (.integer _)
  | _ => exact .error _ _

theorem TextFunction.countBytes_agrees (h : o.Agrees legible exact o') :
    ResultsAgree (Value.Agrees legible grade) (countBytes f o) (countBytes f o') := by
  refine (h.operand f).bind fun v w agree => ?_
  cases agree with
  | null => exact .ok .null
  | string s => exact .ok (.integer _)
  | bytes bs => exact .ok (.integer _)
  | _ => exact .error _ _

theorem TextFunction.join_agrees (h : List.Forall₂ (Outcome.Agrees legible exact) args args') :
    ResultsAgree Eq (join f args) (join f args') := by
  induction h with
  | nil => exact .ok rfl
  | cons first _ ih =>
    refine (first.string f).bind_eq fun s => ih.bind_eq fun rest => ?_
    exact .ok rfl

theorem TextFunction.replace_agrees (times : Option Nat) {find find' new new' : Outcome}
    (h : o.Agrees legible exact o') (hf : find.Agrees legible exact find')
    (hn : new.Agrees legible exact new') :
    ResultsAgree (Value.Agrees legible grade) (replace f times o find new)
      (replace f times o' find' new') := by
  refine (h.string f).bind_eq fun s => (hf.string f).bind_eq fun needle =>
    (hn.string f).bind_eq fun new => ?_
  exact .ok (.string _)

theorem TextFunction.transform_agrees (g : String → String) (h : o.Agrees legible exact o') :
    ResultsAgree (Value.Agrees legible grade) (transform f g o) (transform f g o') := by
  refine (h.string f).bind_eq fun s => ?_
  exact .ok (.string _)

theorem TextFunction.search_agrees (found : List Char → List Char → Bool) {needle needle' : Outcome}
    (h : o.Agrees legible exact o') (hn : needle.Agrees legible exact needle') :
    ResultsAgree (Value.Agrees legible grade) (search f found o needle)
      (search f found o' needle') := by
  refine (h.string f).bind_eq fun s => (hn.string f).bind_eq fun n => ?_
  exact .ok (.boolean _)

theorem PatternTest.apply_agrees (rules : RegexRules) (p : PatternTest) {pattern pattern' : Outcome}
    (h : o.Agrees legible exact o') (hp : pattern.Agrees legible exact pattern') :
    ResultsAgree (Value.Agrees legible grade) (p.apply rules o pattern)
      (p.apply rules o' pattern') := by
  refine (h.string _).bind_eq fun s => (hp.string _).bind_eq fun t => ?_
  cases Pattern.compile rules p.kind t with
  | ok compiled => exact .ok (.boolean _)
  | error fault => exact .error _ _

theorem TimeFunction.toUnixNumber_agrees (unit : TimeUnit) (h : o.Agrees legible exact o') :
    ResultsAgree (Value.Agrees legible grade) (toUnixNumber unit o) (toUnixNumber unit o') := by
  refine (h.timestamp _).bind_eq fun t => ?_
  exact .ok (.integer _)

theorem VectorFunction.count_agrees (h : o.Agrees legible exact o') :
    ResultsAgree (Value.Agrees legible grade) (count o) (count o') := by
  refine (h.vector _).bind fun as bs components => ?_
  rw [components.length_eq]
  exact .ok (.integer _)

end Texts

section Collections

variable (f : Builtin)

namespace CollectionFunction

theorem join_agrees (h : List.Forall₂ (Outcome.Agrees legible exact) args args') :
    ResultsAgree (List.Forall₂ (Value.Agrees legible exact)) (join f args) (join f args') := by
  induction h with
  | nil => exact .ok .nil
  | cons first _ ih =>
    refine (first.array f).bind fun _ _ items => ih.bind fun _ _ rest => ?_
    exact .ok (List.rel_append items rest)

/-- Written pairs of keys and values that agree. -/
def PairsAgree (legible : DocumentKey → Prop) (exact : Bool) : Fields → Fields → Prop :=
  List.Forall₂ fun a b => a.1 = b.1 ∧ a.2.Agrees legible exact b.2

theorem pairs_agree (h : List.Forall₂ (Outcome.Agrees legible exact) args args') :
    ResultsAgree (PairsAgree legible exact) (pairs f args) (pairs f args') := by
  induction args using List.twoStepInduction generalizing args' with
  | nil =>
    cases h
    exact .ok .nil
  | singleton =>
    cases h with
    | cons _ rest =>
      cases rest
      exact .ok .nil
  | cons_cons key value args ih =>
    cases h with
    | cons hk rest =>
      cases rest with
      | cons hv rest =>
        refine (hk.string f).bind_eq fun k => ?_
        cases hv with
        | error => exact .error _ _
        | absent => exact ih rest
        | value hv => exact (ih rest).bind fun _ _ more => .ok (.cons ⟨rfl, hv⟩ more)

theorem getEntry_agrees {key key' : Outcome} (h : o.Agrees legible exact o')
    (hk : key.Agrees legible exact key') :
    (getEntry f o key).Agrees legible exact (getEntry f o' key') := by
  have found : ResultsAgree (Option.Rel (Value.Agrees legible exact))
      (do let entries ← o.entries f; let k ← key.string f; return Entries.find? k entries)
      (do let entries ← o'.entries f; let k ← key'.string f; return Entries.find? k entries) :=
    (h.entries f).bind fun _ _ entries => (hk.string f).bind_eq fun k => .ok (entries.related k)
  unfold getEntry
  revert found
  generalize (do let entries ← o.entries f; let k ← key.string f; return Entries.find? k entries) = x
  generalize (do let entries ← o'.entries f; let k ← key'.string f; return Entries.find? k entries) = y
  intro found
  cases found with
  | error => exact .error _ _
  | ok found =>
    cases found with
    | none => exact .absent
    | some hv => exact .value hv

theorem merge_agrees {as bs : Fields} (entries : Entries.Agree (Value.Agrees legible exact) as bs)
    (h : List.Forall₂ (Outcome.Agrees legible exact) args args') :
    ResultsAgree (Entries.Agree (Value.Agrees legible exact)) (merge f as args) (merge f bs args') := by
  induction h generalizing as bs with
  | nil => exact .ok entries
  | cons first _ ih => exact (first.entries f).bind fun _ _ more => ih (entries.extend more)

theorem removeEntry_agrees {key key' : Outcome} (h : o.Agrees legible exact o')
    (hk : key.Agrees legible exact key') :
    ResultsAgree (Value.Agrees legible exact) (removeEntry f o key) (removeEntry f o' key') := by
  refine (h.entries f).bind fun as bs entries => (hk.string f).bind_eq fun k => ?_
  exact .ok (Value.Agrees.map_iff.mpr ⟨_, rfl, entries.erase⟩)

end CollectionFunction

end Collections

end DocQuery
