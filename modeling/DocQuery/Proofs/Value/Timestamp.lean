import Mathlib.Algebra.Group.Int.Defs
import DocQuery.Expr.Builtin
import DocQuery.Value.Timestamp

/-! Instants as counts of nanoseconds. An instant is its count, which lies in a fixed range, and numbers of a unit are
the count divided by the nanoseconds of the unit, rounded down. -/
namespace DocQuery

/-- The nanoseconds in a unit. -/
def TimeUnit.nanos : TimeUnit → Int
  | micros => 1000
  | millis => 1000000
  | seconds => 1000000000

theorem TimeUnit.nanos_pos (unit : TimeUnit) : 0 < unit.nanos := by
  cases unit <;> decide

namespace Timestamp

/-- From the first nanosecond of year 1 to the last of year 9999. -/
def InRange (total : Int) : Prop := -62135596800 * 10 ^ 9 ≤ total ∧ total < 253402300800 * 10 ^ 9

/-- The instant of a number of a unit. -/
def ofUnix? (unit : TimeUnit) (n : Int) : Option Timestamp :=
  match unit with
  | .micros => ofMicros? n
  | .millis => ofMillis? n
  | .seconds => ofSeconds? n

/-- An instant as a number of a unit. -/
def toUnix (unit : TimeUnit) (t : Timestamp) : Int :=
  match unit with
  | .micros => t.unixMicros
  | .millis => t.unixMillis
  | .seconds => t.unixSeconds

variable {t : Timestamp} {seconds nanos total n : Int} {unit : TimeUnit}

theorem make?_eq_some_iff : make? seconds nanos = some t ↔ t.seconds = seconds ∧ t.nanos = nanos := by
  have first := t.first_le
  have last := t.le_last
  have bound := t.nanos_lt
  rw [make?]
  split
  next within =>
    rw [Option.some_inj]
    constructor
    · rintro rfl
      exact ⟨rfl, Int.toNat_of_nonneg within.2.2.1⟩
    · rintro ⟨rfl, rfl⟩
      rfl
  next outside =>
    refine iff_of_false nofun ?_
    rintro ⟨rfl, rfl⟩
    exact outside ⟨first, last, by omega, by omega⟩

theorem totalNanos_inRange (t : Timestamp) : InRange t.totalNanos := by
  have first := t.first_le
  have last := t.le_last
  have bound := t.nanos_lt
  rw [totalNanos, nanosPerSecond]
  exact ⟨by omega, by omega⟩

/-- The seconds and nanoseconds of a count are its quotient and remainder, also before the epoch. -/
theorem ofNanos?_eq_some_iff : ofNanos? total = some t ↔ t.totalNanos = total := by
  have bound := t.nanos_lt
  rw [ofNanos?, make?_eq_some_iff, totalNanos, nanosPerSecond]
  omega

theorem isSome_ofNanos?_iff : (ofNanos? total).isSome ↔ InRange total := by
  rw [Option.isSome_iff_exists]
  constructor
  · rintro ⟨t, found⟩
    exact ofNanos?_eq_some_iff.mp found ▸ t.totalNanos_inRange
  · intro ⟨low, high⟩
    rw [ofNanos?, make?, nanosPerSecond, dif_pos (by omega)]
    exact ⟨_, rfl⟩

theorem ofNanos?_eq_none_iff : ofNanos? total = none ↔ ¬ InRange total := by
  rw [← isSome_ofNanos?_iff, Option.not_isSome_iff_eq_none]

theorem ofUnix?_eq (unit : TimeUnit) (n : Int) : ofUnix? unit n = ofNanos? (n * unit.nanos) := by
  cases unit with
  | micros | millis => rfl
  | seconds =>
    have quotient : n * 1000000000 / 1000000000 = n := Int.mul_ediv_cancel n (by decide)
    have remainder : n * 1000000000 % 1000000000 = 0 := Int.mul_emod_left n _
    rw [ofUnix?, ofSeconds?, ofNanos?, TimeUnit.nanos, nanosPerSecond, quotient, remainder]

theorem addMicros?_eq (t : Timestamp) (n : Int) : t.addMicros? n = ofNanos? (t.totalNanos + n * 1000) := rfl

theorem toUnix_eq (unit : TimeUnit) (t : Timestamp) : t.toUnix unit = t.totalNanos / unit.nanos := by
  have bound := t.nanos_lt
  rw [totalNanos, nanosPerSecond]
  cases unit with
  | micros => rw [toUnix, unixMicros, TimeUnit.nanos]; omega
  | millis => rw [toUnix, unixMillis, TimeUnit.nanos]; omega
  | seconds => rw [toUnix, unixSeconds, TimeUnit.nanos]; omega

/-- The order by seconds, then nanoseconds, is that of the counts. -/
theorem order_eq_compare (t u : Timestamp) : t.order u = compare t.totalNanos u.totalNanos := by
  have left := t.nanos_lt
  have right := u.nanos_lt
  rw [order, totalNanos, totalNanos, nanosPerSecond]
  rcases Int.lt_trichotomy t.seconds u.seconds with before | same | after
  · rw [Int.compare_eq_lt.mpr before, Int.compare_eq_lt.mpr (by omega)]
    rfl
  · rw [Int.compare_eq_eq.mpr same, Ordering.then]
    rcases Nat.lt_trichotomy t.nanos u.nanos with before | same | after
    · rw [Nat.compare_eq_lt.mpr before, Int.compare_eq_lt.mpr (by omega)]
    · rw [Nat.compare_eq_eq.mpr same, Int.compare_eq_eq.mpr (by omega)]
    · rw [Nat.compare_eq_gt.mpr after, Int.compare_eq_gt.mpr (by omega)]
  · rw [Int.compare_eq_gt.mpr after, Int.compare_eq_gt.mpr (by omega)]
    rfl

/-- An instant goes to a number of a unit and back, rounded down to the unit. -/
theorem ofUnix?_toUnix (unit : TimeUnit) (t : Timestamp) :
    ∃ u, ofUnix? unit (t.toUnix unit) = some u ∧ u.totalNanos = t.totalNanos / unit.nanos * unit.nanos := by
  -- the first instant is a whole number of every unit, so rounding down stays in range
  have within : InRange (t.totalNanos / unit.nanos * unit.nanos) := by
    obtain ⟨low, high⟩ := t.totalNanos_inRange
    cases unit <;> exact ⟨by rw [TimeUnit.nanos]; omega, by rw [TimeUnit.nanos]; omega⟩
  obtain ⟨u, made⟩ := Option.isSome_iff_exists.mp (isSome_ofNanos?_iff.mpr within)
  exact ⟨u, by rw [toUnix_eq, ofUnix?_eq, made], ofNanos?_eq_some_iff.mp made⟩

theorem toUnix_of_ofUnix? (made : ofUnix? unit n = some t) : t.toUnix unit = n := by
  rw [ofUnix?_eq, ofNanos?_eq_some_iff] at made
  rw [toUnix_eq, made]
  exact Int.mul_ediv_cancel n (Int.ne_of_gt unit.nanos_pos)

end Timestamp
end DocQuery
