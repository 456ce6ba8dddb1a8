import DocQuery.Proofs.Machine.Evaluate
import DocQuery.Proofs.Value.Timestamp
import DocQuery.Regex.Library

/-! Moving instants. A move adds to the count of nanoseconds or takes from it, and has an instant if that is in range.
So moves back undo moves forward, moves one after another come to the move by the sum, and only the length of a unit
matters. -/
namespace DocQuery
namespace TimeFunction

/-- The outcome of moving an instant by a number of units. -/
def moved (rules : RegexRules) (f : TimeFunction) (t : Timestamp) (unit : String) (n : Int64) : Outcome :=
  (Builtin.time f).apply rules [.value (.timestamp t), .value (.string unit), .value (.integer n)]

/-- The outcome of a move that comes to a count of nanoseconds. -/
def reached (f : TimeFunction) (total : Int) : Outcome :=
  .ofExcept (inRange (.time f) (Timestamp.ofNanos? total))

variable {rules : RegexRules} {f : TimeFunction} {t : Timestamp} {unit : String} {k total : Int}

theorem reached_eq_value_iff : reached f total = .value (.timestamp t) ↔ t.totalNanos = total := by
  rw [← Timestamp.ofNanos?_eq_some_iff, reached]
  cases Timestamp.ofNanos? total with
  | none => exact iff_of_false nofun nofun
  | some u => simp [inRange, Outcome.ofExcept]

theorem reached_eq_error_iff :
    reached f total = .error (.outOfRange (.time f)) ↔ ¬ Timestamp.InRange total := by
  rw [← Timestamp.ofNanos?_eq_none_iff, reached]
  cases Timestamp.ofNanos? total with
  | none => exact iff_of_true rfl rfl
  | some u => exact iff_of_false nofun nofun

theorem reached_cases (f : TimeFunction) (total : Int) :
    (∃ t, reached f total = .value (.timestamp t)) ∨ reached f total = .error (.outOfRange (.time f)) := by
  by_cases within : Timestamp.InRange total
  · obtain ⟨t, made⟩ := Option.isSome_iff_exists.mp (Timestamp.isSome_ofNanos?_iff.mpr within)
    exact .inl ⟨t, reached_eq_value_iff.mpr (Timestamp.ofNanos?_eq_some_iff.mp made)⟩
  · exact .inr (reached_eq_error_iff.mpr within)

/-- A shift in a direction, by a unit of so many microseconds. -/
theorem shift_known (known : unitMicros? unit = some k) (f : Builtin) (sign : Int) (t : Timestamp) (n : Int64) :
    shift f sign (.value (.timestamp t)) (.value (.string unit)) (.value (.integer n)) =
      inRange f (t.addMicros? (sign * (n.toInt * k))) := by
  have time : (Outcome.value (.timestamp t)).timestamp f = .ok t := rfl
  have name : (Outcome.value (.string unit)).string f = .ok unit := rfl
  have amount : (Outcome.value (.integer n)).integer f = .ok n := rfl
  simp only [shift, time, name, amount, known, bind, Except.bind]

theorem moved_add (known : unitMicros? unit = some k) (rules : RegexRules) (t : Timestamp) (n : Int64) :
    moved rules .add t unit n = reached .add (t.totalNanos + n.toInt * k * 1000) := by
  have applied : moved rules .add t unit n = .ofExcept (shift (.time .add) 1 _ _ _) := rfl
  rw [applied, shift_known known, Timestamp.addMicros?_eq, Int.one_mul, reached]

theorem moved_sub (known : unitMicros? unit = some k) (rules : RegexRules) (t : Timestamp) (n : Int64) :
    moved rules .sub t unit n = reached .sub (t.totalNanos - n.toInt * k * 1000) := by
  have applied : moved rules .sub t unit n = .ofExcept (shift (.time .sub) (-1) _ _ _) := rfl
  rw [applied, shift_known known, Timestamp.addMicros?_eq, Int.neg_one_mul, Int.neg_mul, ← Int.sub_eq_add_neg,
    reached]

/-- Moves of instants lead to the exact instant, if there is one. So they undo each other, follow each other and do not
depend on the name of the unit. -/
theorem moves_of_instants (rules : RegexRules) (known : unitMicros? unit = some k) (ts : Timestamp) :
    let add := moved rules .add
    let sub := moved rules .sub
    let outOfRange : Outcome := .error (.outOfRange (.time .add))
    let total (n : Int64) := ts.totalNanos + n.toInt * k * 1000
    (∀ n, (add ts unit n = outOfRange ↔ ¬ Timestamp.InRange (total n)) ∧
        ∀ t, add ts unit n = .value (.timestamp t) ↔ t.totalNanos = total n) ∧
      (∀ t n, add ts unit n = .value (.timestamp t) ↔ sub t unit n = .value (.timestamp ts)) ∧
      (∀ t m n s, add ts unit m = .value (.timestamp t) → s.toInt = m.toInt + n.toInt →
        (∃ u, add t unit n = .value (.timestamp u) ∧ add ts unit s = .value (.timestamp u)) ∨
          add t unit n = outOfRange ∧ add ts unit s = outOfRange) ∧
      (∀ smaller j c n s, unitMicros? smaller = some j → k = c * j → s.toInt = c * n.toInt →
        add ts unit n = add ts smaller s) ∧
      ∀ row f time name amount t n, evaluate rules row time = .value (.timestamp t) →
        evaluate rules row name = .value (.string unit) → evaluate rules row amount = .value (.integer n) →
        evaluate rules row (.call (.time f) [time, name, amount]) = moved rules f t unit n ∧
          Machine.evaluate rules row (.call (.time f) [time, name, amount]) = .ok (moved rules f t unit n) := by
  intro add sub outOfRange total
  have add_eq (t : Timestamp) (n : Int64) : add t unit n = reached .add (t.totalNanos + n.toInt * k * 1000) :=
    moved_add known rules t n
  refine ⟨fun n => ?_, fun t n => ?_, fun t m n s first sum => ?_, fun smaller j c n s known' longer more => ?_, ?_⟩
  · rw [add_eq]
    exact ⟨reached_eq_error_iff, fun t => reached_eq_value_iff⟩
  · have sub_eq : sub t unit n = reached .sub (t.totalNanos - n.toInt * k * 1000) := moved_sub known rules t n
    rw [add_eq, sub_eq, reached_eq_value_iff, reached_eq_value_iff]
    omega
  · rw [add_eq, reached_eq_value_iff] at first
    have same : add t unit n = add ts unit s := by
      rw [add_eq, add_eq, first, sum, Int.add_mul, Int.add_mul, Int.add_assoc]
    rw [same, add_eq]
    rcases reached_cases .add (total s) with ⟨u, made⟩ | outside
    · exact .inl ⟨u, made, made⟩
    · exact .inr ⟨outside, outside⟩
  · have smaller_eq : add ts smaller s = reached .add (ts.totalNanos + s.toInt * j * 1000) :=
      moved_add known' rules ts s
    rw [add_eq, smaller_eq, more, longer, ← Int.mul_assoc, Int.mul_comm n.toInt c]
  · intro row f time name amount t n read_time read_name read_amount
    have call : evaluate rules row (.call (.time f) [time, name, amount]) = moved rules f t unit n := by
      rw [evaluate, evaluateAll_eq_map, List.map_cons, List.map_cons, List.map_cons, List.map_nil, read_time, read_name,
        read_amount, moved]
    exact ⟨call, by rw [Machine.evaluate_eq, call]⟩

/-- From the first day of year 1 to the last of year 9999, from where the way on leads out of range and the way back
does not, and the same way by hours. -/
theorem moves_of_instants_across_range :
    let first : Timestamp := ⟨-62135596800, 999999999, by decide, by decide, by decide⟩
    let last : Timestamp := ⟨253402214400, 999999999, by decide, by decide, by decide⟩
    let outOfRange : Outcome := .error (.outOfRange (.time .add))
    unitMicros? "day" = some 86400000000 ∧ moved 0 .sub last "day" 3652058 = .value (.timestamp first) ∧
      moved 0 .add last "day" 1 = outOfRange ∧ moved 0 .add first "day" 3652059 = outOfRange ∧
      moved 0 .add first "hour" 87649392 = .value (.timestamp last) := by
  intro first last outOfRange
  have known : unitMicros? "day" = some 86400000000 := rfl
  have forth : moved 0 .add first "day" 3652058 = .value (.timestamp last) := rfl
  obtain ⟨-, back, follow, smaller, -⟩ := moves_of_instants 0 known first
  obtain ⟨outside, -⟩ := (moves_of_instants 0 known last).1 1
  have on : moved 0 .add last "day" 1 = outOfRange := outside.mpr fun within => absurd within.2 (by decide)
  have hours := smaller "hour" 3600000000 24 3652058 87649392 rfl rfl rfl
  refine ⟨known, (back last 3652058).mp forth, on, ?_, hours.symm.trans forth⟩
  rcases follow last 3652058 1 3652059 forth rfl with ⟨u, reaches, -⟩ | ⟨-, outside⟩
  · exact absurd (on.symm.trans reaches) nofun
  · exact outside

end TimeFunction
end DocQuery
