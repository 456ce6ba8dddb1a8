import DocQuery.Proofs.Eval.Evaluate
import DocQuery.Regex.Library

/-! Several values looked for in an array at once, against one at a time. Values that are absent are passed over, so
that they count for nothing where any value will do, and stand in the way of nothing where all are wanted. -/
namespace DocQuery

namespace Outcome

def isAbsent : Outcome → Bool
  | absent => true
  | _ => false

def isArray : Outcome → Bool
  | value (.array _) => true
  | _ => false

theorem eq_array_of_isArray {o : Outcome} (h : o.isArray) : ∃ items, o = .value (.array items) := by
  cases o with
  | value v =>
    cases v with
    | array items => exact ⟨items, rfl⟩
    | _ => contradiction
  | _ => contradiction

end Outcome

theorem all_congr_mem {as : List α} {p q : α → Bool} (h : ∀ a ∈ as, p a = q a) : as.all p = as.all q :=
  all_congr (R := fun a b => p a = q b) (List.forall₂_same.mpr h) fun _ _ => id

theorem any_congr_mem {as : List α} {p q : α → Bool} (h : ∀ a ∈ as, p a = q a) : as.any p = as.any q :=
  any_congr (R := fun a b => p a = q b) (List.forall₂_same.mpr h) fun _ _ => id

section Operands

variable {array : Outcome} {args : List Outcome}

theorem presentValues_of_sound (sound : ∀ o ∈ args, o.isError = false) :
    presentValues args = .ok (args.filterMap Outcome.value?) := by
  induction args with
  | nil => rfl
  | cons o os ih =>
    obtain ⟨first, others⟩ := List.forall_mem_cons.mp sound
    cases o with
    | value v =>
      rw [presentValues, ih others]
      rfl
    | absent => exact ih others
    | error e => contradiction

theorem candidates_of_sound (several : 2 ≤ args.length) (sound : ∀ o ∈ args, o.isError = false) :
    candidates args = .ok (some (args.filterMap Outcome.value?)) := by
  match args with
  | a :: b :: rest =>
    rw [candidates_several, presentValues_of_sound sound]
    rfl

namespace Containment

theorem isTrue_inArray_of_no_array (other : array.isArray = false) (wanted : Outcome) :
    (inArray array wanted).isTrue = false := by
  cases array with
  | value v => cases v <;> cases wanted <;> first | rfl | contradiction
  | _ => cases wanted <;> rfl

theorem inArray_of_sound (sound : array.isError = false) {wanted : Outcome} (found : wanted.isError = false) :
    inArray array wanted = .boolean (inArray array wanted).isTrue := by
  cases array with
  | error => contradiction
  | absent => cases wanted <;> first | rfl | contradiction
  | value v => cases v <;> cases wanted <;> first | rfl | contradiction

theorem severalInArray_of_no_array (c : Containment) (several : 2 ≤ args.length) (sound : array.isError = false)
    (found : ∀ o ∈ args, o.isError = false) (other : array.isArray = false) :
    c.severalInArray array args = .boolean false := by
  unfold severalInArray
  rw [candidates_of_sound several found]
  cases array with
  | error => contradiction
  | absent => rfl
  | value v => cases v <;> first | rfl | contradiction

theorem severalInArray_of_array (c : Containment) (several : 2 ≤ args.length) (found : ∀ o ∈ args, o.isError = false)
    (items : List Value) : c.severalInArray (.value (.array items)) args =
      .boolean (if c = all then (args.filterMap Outcome.value?).all (holdsIn items)
        else (args.filterMap Outcome.value?).any (holdsIn items)) := by
  unfold severalInArray
  rw [candidates_of_sound several found]

theorem any_severalInArray (several : 2 ≤ args.length) (sound : array.isError = false)
    (found : ∀ o ∈ args, o.isError = false) :
    any.severalInArray array args = .boolean (args.any fun o => (inArray array o).isTrue) := by
  cases kind : array.isArray with
  | false =>
    rw [severalInArray_of_no_array any several sound found kind]
    simp only [isTrue_inArray_of_no_array kind, List.any_eq_false.mpr fun _ _ => Bool.false_ne_true]
  | true =>
    obtain ⟨items, rfl⟩ := Outcome.eq_array_of_isArray kind
    rw [severalInArray_of_array any several found, if_neg (by decide), List.any_filterMap]
    refine congrArg (fun test => Outcome.boolean (args.any test)) (funext fun o => ?_)
    cases o <;> rfl

/-- Absent values are not looked for, so that any array contains all of them. -/
theorem all_severalInArray (several : 2 ≤ args.length) (sound : array.isError = false)
    (found : ∀ o ∈ args, o.isError = false) : all.severalInArray array args =
      .boolean (array.isArray && args.all fun o => o.isAbsent || (inArray array o).isTrue) := by
  cases kind : array.isArray with
  | false => exact severalInArray_of_no_array all several sound found kind
  | true =>
    obtain ⟨items, rfl⟩ := Outcome.eq_array_of_isArray kind
    have tests : (args.filterMap Outcome.value?).all (holdsIn items) =
        args.all fun o => o.isAbsent || (inArray (.value (.array items)) o).isTrue := by
      rw [List.all_filterMap]
      refine all_congr_mem fun o ho => ?_
      cases o with
      | error => exact absurd (found _ ho) Bool.noConfusion
      | _ => rfl
    rw [severalInArray_of_array all several found, if_pos rfl, tests, Bool.true_and]

theorem all_severalInArray_of_present (several : 2 ≤ args.length) (sound : array.isError = false)
    (found : ∀ o ∈ args, o.isError = false) (present : ∀ o ∈ args, o.isAbsent = false) :
    all.severalInArray array args = .boolean (args.all fun o => (inArray array o).isTrue) := by
  cases kind : array.isArray with
  | false =>
    obtain ⟨o, ho⟩ := List.exists_mem_of_length_pos (Nat.zero_lt_of_lt several)
    have missing : ∃ o ∈ args, ¬ (inArray array o).isTrue = true := ⟨o, ho, by simp [isTrue_inArray_of_no_array kind]⟩
    rw [severalInArray_of_no_array all several sound found kind, List.all_eq_false.mpr missing]
  | true =>
    rw [all_severalInArray several sound found, kind, Bool.true_and]
    exact congrArg Outcome.boolean (all_congr_mem fun o ho => by rw [present o ho, Bool.false_or])

end Containment
end Operands

section Calls

variable {rules : RegexRules} {row : Row} {array : Expr} {wanted : List Expr}

theorem evaluate_contains {e w : Expr} (call : e.application? = some (.containment .element, [array, w])) :
    evaluate rules row e = Containment.inArray (evaluate rules row array) (evaluate rules row w) := by
  rw [evaluate_application call]
  rfl

theorem evaluate_containsSeveral {e : Expr} {c : Containment} (plural : c ≠ .element)
    (call : e.application? = some (.containment c, array :: wanted)) (several : 2 ≤ wanted.length) :
    evaluate rules row e = c.severalInArray (evaluate rules row array) (wanted.map (evaluate rules row)) := by
  rw [evaluate_application call, Builtin.apply, if_pos]
  · cases c with
    | element => contradiction
    | all | any => rfl
  · have admitted : 2 ≤ (wanted.map (evaluate rules row)).length + 1 := by
      rw [List.length_map]
      omega
    cases c with
    | element => contradiction
    | all | any => exact decide_eq_true admitted

/-- With several candidates, an array contains any of them if it contains one of them, and all of them if it contains
each one that is there. Without absent candidates the latter are all candidates. -/
theorem containment_of_several (rules : RegexRules) (row : Row) {single : Expr → Expr} {any all : Expr}
    (calls : ∀ w ∈ wanted, (single w).application? = some (.containment .element, [array, w]))
    (calls_any : any.application? = some (.containment .any, array :: wanted))
    (calls_all : all.application? = some (.containment .all, array :: wanted)) (several : 2 ≤ wanted.length)
    (sound : ∀ e ∈ array :: wanted, (evaluate rules row e).isError = false) :
    let contains (w : Expr) : Bool := (evaluate rules row (single w)).isTrue
    let absent (w : Expr) : Bool := (evaluate rules row w).isAbsent
    (∀ w ∈ wanted, evaluate rules row (single w) = .boolean (contains w)) ∧
      evaluate rules row any = .boolean (wanted.any contains) ∧
      evaluate rules row all =
        .boolean ((evaluate rules row array).isArray && wanted.all fun w => absent w || contains w) ∧
      ((∀ w ∈ wanted, absent w = false) → evaluate rules row all = .boolean (wanted.all contains)) := by
  intro contains absent
  obtain ⟨array_sound, wanted_sound⟩ := List.forall_mem_cons.mp sound
  have size : 2 ≤ (wanted.map (evaluate rules row)).length := by rwa [List.length_map]
  have found : ∀ o ∈ wanted.map (evaluate rules row), o.isError = false := List.forall_mem_map.mpr wanted_sound
  let holds (o : Outcome) : Bool := (Containment.inArray (evaluate rules row array) o).isTrue
  have one : ∀ w ∈ wanted, evaluate rules row (single w) =
      Containment.inArray (evaluate rules row array) (evaluate rules row w) :=
    fun w hw => evaluate_contains (calls w hw)
  have each : List.Forall₂ (fun w o => contains w = holds o ∧ absent w = o.isAbsent) wanted
      (wanted.map (evaluate rules row)) :=
    List.forall₂_map_right_iff.mpr (List.forall₂_same.mpr fun w hw => ⟨congrArg Outcome.isTrue (one w hw), rfl⟩)
  refine ⟨fun w hw => ?_, ?_, ?_, fun present => ?_⟩
  · simp only [contains, one w hw]
    exact Containment.inArray_of_sound array_sound (wanted_sound w hw)
  · have tests : wanted.any contains = (wanted.map (evaluate rules row)).any holds :=
      any_congr each fun _ _ both => both.1
    rw [evaluate_containsSeveral (by decide) calls_any several, Containment.any_severalInArray size array_sound found,
      tests]
  · have tests : (wanted.all fun w => absent w || contains w) =
        (wanted.map (evaluate rules row)).all fun o => o.isAbsent || holds o :=
      all_congr each fun _ _ both => by rw [both.1, both.2]
    rw [evaluate_containsSeveral (by decide) calls_all several, Containment.all_severalInArray size array_sound found,
      tests]
  · have tests : wanted.all contains = (wanted.map (evaluate rules row)).all holds :=
      all_congr each fun _ _ both => both.1
    rw [evaluate_containsSeveral (by decide) calls_all several,
      Containment.all_severalInArray_of_present size array_sound found (List.forall_mem_map.mpr present), tests]

/-- A number in another spelling is contained and a field of the row is not. -/
theorem containment_of_respelled_number :
    let row : Row := .ofFields [("tags", .array [.string "red", .integer 3]), ("shade", .string "blue")]
    let array : Expr := .field ⟨["tags"]⟩
    let wanted : List Expr := [.constant (.double (.ofBits 0x4008000000000000)), .field ⟨["shade"]⟩]
    let single (w : Expr) : Expr := .condition (.containment .element) [array, w] rfl
    let any : Expr := .call (.containment .any) (array :: wanted)
    let all : Expr := .condition (.containment .all) (array :: wanted) rfl
    (∀ w ∈ wanted, (single w).application? = some (.containment .element, [array, w])) ∧
      any.application? = some (.containment .any, array :: wanted) ∧
      all.application? = some (.containment .all, array :: wanted) ∧ 2 ≤ wanted.length ∧
      (∀ e ∈ array :: wanted, (evaluate 100 row e).isError = false) ∧
      evaluate 100 row any = .boolean true ∧ evaluate 100 row all = .boolean false := by
  intro row array wanted single any all
  have sound : ∀ e ∈ array :: wanted, (evaluate 100 row e).isError = false := by decide +kernel
  have calls : ∀ w ∈ wanted, (single w).application? = some (.containment .element, [array, w]) := fun _ _ => rfl
  have calls_any : any.application? = some (.containment .any, array :: wanted) := rfl
  have calls_all : all.application? = some (.containment .all, array :: wanted) := rfl
  have several : 2 ≤ wanted.length := by decide
  obtain ⟨_, contains_any, _, contains_all⟩ :=
    containment_of_several 100 row calls calls_any calls_all several sound
  have one : wanted.any (fun w => (evaluate 100 row (single w)).isTrue) = true := by decide +kernel
  have each : wanted.all (fun w => (evaluate 100 row (single w)).isTrue) = false := by decide +kernel
  rw [one] at contains_any
  have present := contains_all (by decide +kernel)
  rw [each] at present
  exact ⟨calls, calls_any, calls_all, several, sound, contains_any, present⟩

/-- An array contains no absent value, but all of several values of which one is absent. -/
theorem containment_despite_absent :
    let row : Row := .ofFields [("tags", .array [.string "red", .string "blue"])]
    let array : Expr := .field ⟨["tags"]⟩
    let missing : Expr := .field ⟨["missing"]⟩
    let wanted : List Expr := [.constant (.string "red"), missing]
    let single (w : Expr) : Expr := .condition (.containment .element) [array, w] rfl
    let all (wanted : List Expr) : Expr := .condition (.containment .all) (array :: wanted) rfl
    (∀ e ∈ array :: wanted, (evaluate 100 row e).isError = false) ∧
      evaluate 100 row (single missing) = .boolean false ∧ evaluate 100 row (all [missing]) = .boolean false ∧
      evaluate 100 row (all wanted) = .boolean true ∧
      evaluate 100 row (all wanted) ≠ .boolean (wanted.all fun w => (evaluate 100 row (single w)).isTrue) := by
  intro row array missing wanted single all
  have contained : evaluate 100 row (all wanted) = .boolean true := rfl
  have each : wanted.all (fun w => (evaluate 100 row (single w)).isTrue) = false := by decide +kernel
  refine ⟨by decide +kernel, rfl, rfl, contained, fun same => ?_⟩
  rw [each] at same
  cases contained.symm.trans same

end Calls
end DocQuery
