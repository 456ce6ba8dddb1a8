import DocQuery.Proofs.Number.Integers
import DocQuery.Proofs.Pipeline.Counting

/-! Sums. A running sum is nothing before the first number, then the exact sum of integers, and from the first double or
the first sum that leaves 64 bits on it is a double. -/
namespace DocQuery

def Value.integer? : Value → Option Int
  | integer i => some i.toInt
  | _ => none

/-- The integers among values, in order. -/
def integersAmong (vs : List Value) : List Int := vs.filterMap Value.integer?

/-- Values whose sum is an integer: there is one, no double, and no sum on the way leaves 64 bits. -/
structure SumsExactly (vs : List Value) : Prop where
  some_integer : ∃ i, .integer i ∈ vs
  no_double : ∀ d, .double d ∉ vs
  in_range : ∀ front, front <+: integersAmong vs → InInt64 front.sum

/-- Values whose sum is a double: there is one, or a sum on the way leaves 64 bits. -/
def SumsRounded (vs : List Value) : Prop :=
  (∃ d, .double d ∈ vs) ∨ ∃ front, front <+: integersAmong vs ∧ ¬ InInt64 front.sum

/-- What a sum has taken in. -/
def Summed (vs : List Value) : Option Number → Prop
  | none => ∀ v ∈ vs, v.isNumber = false
  | some (.integer s) => SumsExactly vs ∧ s.toInt = (integersAmong vs).sum
  | some (.double _) => SumsRounded vs

/-- Takes a value into a sum. -/
def sumWith (total : Option Number) (v : Value) : Option Number := (Number.ofValue? v).elim total (addToSum total)

section Steps

variable {vs : List Value} {v : Value} {i k : Int64}

theorem integersAmong_concat_integer : integersAmong (vs ++ [.integer i]) = integersAmong vs ++ [i.toInt] := by
  rw [integersAmong, List.filterMap_append]
  rfl

theorem Value.integer?_eq_none (other : v.isNumber = false) : v.integer? = none := by
  cases v <;> first | contradiction | rfl

theorem integersAmong_of_no_number (none : ∀ v ∈ vs, v.isNumber = false) : integersAmong vs = [] :=
  List.filterMap_eq_nil_iff.mpr fun v hv => v.integer?_eq_none (none v hv)

theorem SumsRounded.append (h : SumsRounded vs) (more : List Value) : SumsRounded (vs ++ more) := by
  rcases h with ⟨d, member⟩ | ⟨front, part, leaves⟩
  · exact .inl ⟨d, List.mem_append_left more member⟩
  · refine .inr ⟨front, part.trans ?_, leaves⟩
    rw [integersAmong, integersAmong, List.filterMap_append]
    exact List.prefix_append _ _

/-- One more integer that leads to another one of 64 bits. -/
theorem sumsExactly_concat (no_double : ∀ d, .double d ∉ vs)
    (in_range : ∀ front, front <+: integersAmong vs → InInt64 front.sum)
    (next : k.toInt = (integersAmong vs).sum + i.toInt) :
    SumsExactly (vs ++ [.integer i]) ∧ k.toInt = (integersAmong (vs ++ [.integer i])).sum := by
  have total : k.toInt = (integersAmong vs ++ [i.toInt]).sum := by
    rw [List.sum_append, List.sum_singleton, next]
  rw [integersAmong_concat_integer]
  refine ⟨⟨⟨i, by simp⟩, by simpa using no_double, fun front part => ?_⟩, total⟩
  rw [integersAmong_concat_integer] at part
  -- The whole sum is the only new one on the way.
  rcases List.prefix_concat_iff.mp part with rfl | part
  · exact total ▸ toInt_inInt64 k
  · exact in_range front part

theorem Summed.concat_other {total : Option Number} (h : Summed vs total) (other : v.isNumber = false) :
    Summed (vs ++ [v]) total := by
  have same : integersAmong (vs ++ [v]) = integersAmong vs := by
    rw [integersAmong, List.filterMap_append, List.filterMap_cons_none (v.integer?_eq_none other)]
    exact List.append_nil _
  match total with
  | none => exact List.forall_mem_append.mpr ⟨h, List.forall_mem_singleton.mpr other⟩
  | some (.integer s) =>
    obtain ⟨⟨⟨i, member⟩, no_double, in_range⟩, sum⟩ := h
    refine ⟨⟨⟨i, List.mem_append_left _ member⟩, fun d added => ?_, same ▸ in_range⟩, same ▸ sum⟩
    rcases List.mem_append.mp added with before | last
    · exact no_double d before
    · rw [← List.mem_singleton.mp last] at other
      contradiction
  | some (.double d) => exact SumsRounded.append h [v]

theorem Summed.concat {total : Option Number} (h : Summed vs total) (v : Value) :
    Summed (vs ++ [v]) (sumWith total v) := by
  cases v with
  | integer j =>
    match total, h with
    | none, none_before =>
      have empty := integersAmong_of_no_number none_before
      refine sumsExactly_concat ?_ ?_ ?_
      · intro d member
        exact absurd (none_before _ member) (by simp [Value.isNumber])
      · rw [empty]
        intro front part
        rw [List.prefix_nil.mp part]
        exact ⟨by decide, by decide⟩
      · simp [empty]
    | some (.integer s), ⟨exact_before, sum⟩ =>
      have step : sumWith (some (.integer s)) (.integer j) = some (Number.addRounded (.integer s) (.integer j)) := rfl
      rw [step, Number.addRounded]
      cases next : checkedInt (s.toInt + j.toInt) with
      | some k =>
        exact sumsExactly_concat exact_before.no_double exact_before.in_range (sum ▸ toInt_of_checkedInt next)
      | none =>
        refine .inr ⟨_, List.prefix_refl _, ?_⟩
        rw [integersAmong_concat_integer, List.sum_append, List.sum_singleton, ← sum]
        exact not_inInt64_of_checkedInt next
    | some (.double d), rounded => exact rounded.append _
  | double d =>
    have rounded : SumsRounded (vs ++ [.double d]) := .inl ⟨d, by simp⟩
    match total with
    | none | some (.integer _) | some (.double _) => exact rounded
  | _ => exact h.concat_other rfl

end Steps

section Runs

variable {vs : List Value}

theorem summed_foldl (vs : List Value) : Summed vs (vs.foldl sumWith none) := by
  induction vs using List.reverseRecOn with
  | nil => exact fun v hv => absurd hv List.not_mem_nil
  | append_singleton vs v ih =>
    rw [List.foldl_concat]
    exact ih.concat v

theorem SumsExactly.some_number (h : SumsExactly vs) : ¬ ∀ v ∈ vs, v.isNumber = false := by
  intro none
  obtain ⟨i, member⟩ := h.some_integer
  exact absurd (none _ member) Bool.true_eq_false_eq_False

theorem SumsRounded.some_number (h : SumsRounded vs) : ¬ ∀ v ∈ vs, v.isNumber = false := by
  intro none
  rcases h with ⟨d, member⟩ | ⟨front, part, leaves⟩
  · exact absurd (none _ member) Bool.true_eq_false_eq_False
  · rw [integersAmong_of_no_number none] at part
    rw [List.prefix_nil.mp part] at leaves
    exact leaves ⟨by decide, by decide⟩

theorem SumsExactly.not_rounded (h : SumsExactly vs) : ¬ SumsRounded vs := by
  rintro (⟨d, member⟩ | ⟨front, part, leaves⟩)
  · exact h.no_double d member
  · exact leaves (h.in_range front part)

theorem foldl_add_sum (vs : List Value) (total : Option Number) :
    vs.foldl Tally.add (.sum total) = .sum (vs.foldl sumWith total) := by
  induction vs generalizing total with
  | nil => rfl
  | cons v vs ih =>
    have step : (Tally.sum total).add v = .sum (sumWith total v) := by
      rw [Tally.add, sumWith]
      cases Number.ofValue? v <;> rfl
    rw [List.foldl_cons, step, ih, List.foldl_cons]

/-- The value of a sum. -/
def sumOf (vs : List Value) : Value := (vs.foldl Tally.add (Tally.start .sum)).result

theorem sumOf_eq (vs : List Value) : sumOf vs = ((vs.foldl sumWith none).map Number.toValue).getD .null := by
  rw [sumOf, Tally.start, foldl_add_sum, Tally.result]

/-- The three ends of a sum, each with what leads to it. -/
theorem sumOf_cases (vs : List Value) :
    (sumOf vs = .null ∧ ∀ v ∈ vs, v.isNumber = false) ∨
      (∃ s, sumOf vs = .integer s ∧ SumsExactly vs ∧ s.toInt = (integersAmong vs).sum) ∨
      ∃ d, sumOf vs = .double d ∧ SumsRounded vs := by
  have summed := summed_foldl vs
  rw [sumOf_eq]
  match vs.foldl sumWith none, summed with
  | none, unknown => exact .inl ⟨rfl, unknown⟩
  | some (.integer s), ⟨integers, sum⟩ => exact .inr (.inl ⟨s, rfl, integers, sum⟩)
  | some (.double d), rounded => exact .inr (.inr ⟨d, rfl, rounded⟩)

theorem sumOf_eq_null_iff : sumOf vs = .null ↔ ∀ v ∈ vs, v.isNumber = false := by
  rcases sumOf_cases vs with ⟨null, none⟩ | ⟨s, integer, exactly, _⟩ | ⟨d, double, rounded⟩
  · exact iff_of_true null none
  · exact iff_of_false (by simp [integer]) exactly.some_number
  · exact iff_of_false (by simp [double]) rounded.some_number

theorem sumOf_eq_integer_iff {s : Int64} :
    sumOf vs = .integer s ↔ SumsExactly vs ∧ s.toInt = (integersAmong vs).sum := by
  rcases sumOf_cases vs with ⟨null, none⟩ | ⟨s', integer, exactly, sum⟩ | ⟨d, double, rounded⟩
  · exact iff_of_false (by simp [null]) fun known => known.1.some_number none
  · rw [integer]
    constructor
    · rintro ⟨⟩
      exact ⟨exactly, sum⟩
    · rintro ⟨_, sum'⟩
      exact congrArg Value.integer (Int64.toInt_inj.mp (sum.trans sum'.symm))
  · exact iff_of_false (by simp [double]) fun known => known.1.not_rounded rounded

theorem sumOf_eq_double_iff : (∃ d, sumOf vs = .double d) ↔ SumsRounded vs := by
  rcases sumOf_cases vs with ⟨null, none⟩ | ⟨s, integer, exactly, _⟩ | ⟨d, double, rounded⟩
  · exact iff_of_false (by simp [null]) fun rounded => rounded.some_number none
  · exact iff_of_false (by simp [integer]) exactly.not_rounded
  · exact iff_of_true ⟨d, double⟩ rounded

theorem sumOf_insert_other {v : Value} (other : v.isNumber = false) (more : List Value) :
    sumOf (vs ++ v :: more) = sumOf (vs ++ more) := by
  have passed (total : Option Number) : sumWith total v = total := by
    cases v <;> first | contradiction | rfl
  rw [sumOf_eq, sumOf_eq, List.foldl_append, List.foldl_append, List.foldl_cons, passed]

/-- A sum is null without numbers, the exact sum as long as integers lead to integers of 64 bits, and otherwise a double,
which it stays. What is no number does not matter. -/
theorem sums_of_values (vs : List Value) :
    let total (vs : List Value) := (vs.foldl Tally.add (Tally.start .sum)).result
    (total vs = .null ↔ ∀ v ∈ vs, v.isNumber = false) ∧
      (∀ s, total vs = .integer s ↔ SumsExactly vs ∧ s.toInt = (integersAmong vs).sum) ∧
      (total vs = .null ∨ (∃ s, total vs = .integer s) ∨ ∃ d, total vs = .double d) ∧
      (∀ more d, total vs = .double d → ∃ e, total (vs ++ more) = .double e) ∧
      (∀ more v, v.isNumber = false → total (vs ++ v :: more) = total (vs ++ more)) ∧
      ∀ rules rows path arg args, (rows.map fun row => evaluate rules row arg).filterMap Outcome.value? = vs →
        ((Step.aggregate [] [⟨path, .sum, arg :: args⟩]).run rules rows).value =
          [.ofFields (setField [] path.segments (total vs))] := by
  intro total
  refine ⟨sumOf_eq_null_iff, fun s => sumOf_eq_integer_iff, ?_, ?_, fun more v other => sumOf_insert_other other more, ?_⟩
  · rcases sumOf_cases vs with ⟨null, _⟩ | ⟨s, integer, _⟩ | ⟨d, double, _⟩
    · exact .inl null
    · exact .inr (.inl ⟨s, integer⟩)
    · exact .inr (.inr ⟨d, double⟩)
  · intro more d double
    have rounded : SumsRounded vs := sumOf_eq_double_iff.mp ⟨d, double⟩
    exact sumOf_eq_double_iff.mpr (rounded.append more)
  · rintro rules rows path arg args rfl
    rw [run_total, totalOver_argument, Tally.foldl_feed_some]

/-- One more than the last integer of 64 bits makes a double, and one less does not bring the integer back. -/
theorem sums_of_values_at_the_end_of_range :
    let total (vs : List Value) := (vs.foldl Tally.add (Tally.start .sum)).result
    let last : Value := .integer Int64.maxValue
    let n : Expr := .field ⟨["n"]⟩
    let rows : List Row := [.ofFields [("n", last)], .ofFields [], .ofFields [("n", .integer 1)]]
    (∃ d, total [last, .integer 1] = .double d) ∧ (∃ e, total [last, .integer 1, .integer (-1)] = .double e) ∧
      total [last, .integer 1, .string "1", .integer (-1)] = total [last, .integer 1, .integer (-1)] ∧
      ((Step.aggregate [] [⟨⟨["total"]⟩, .sum, [n]⟩]).run 100 rows).value =
        [.ofFields (setField [] ["total"] (total [last, .integer 1]))] := by
  intro total last n rows
  have read : (rows.map fun row => evaluate 100 row n).filterMap Outcome.value? = [last, .integer 1] := rfl
  have leaves : SumsRounded [last, .integer 1] := by
    refine .inr ⟨_, List.prefix_refl _, fun fits => ?_⟩
    exact absurd fits.2 (by decide +kernel)
  obtain ⟨d, double⟩ := sumOf_eq_double_iff.mpr leaves
  obtain ⟨_, _, _, stays, passed, runs⟩ := sums_of_values [last, .integer 1]
  exact ⟨⟨d, double⟩, stays [.integer (-1)] d double, passed [.integer (-1)] (.string "1") rfl,
    runs 100 rows ⟨["total"]⟩ n [] read⟩

end Runs
end DocQuery
