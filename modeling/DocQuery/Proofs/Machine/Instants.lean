import DocQuery.Proofs.Machine.Operations
import DocQuery.Proofs.Number.Integers
import DocQuery.Proofs.Value.Timestamp

/-! Instants on the machine. Two words hold an instant, and nothing about the words keeps it in range: it is the checks
of the functions that make instants. Whatever they make is an instant of the engine, and all counts of nanoseconds on
the way are exact. -/
namespace DocQuery
namespace Machine

structure Instant where
  seconds : Int64
  nanos : Int32
  deriving DecidableEq

/-- Dates of another library, which tell their seconds since the epoch and the nanoseconds above them. In a leap second
these are more than a second. -/
structure Calendar (δ : Type) where
  seconds : δ → Int64
  nanos : δ → UInt32

namespace Instant

section Functions

def make? (seconds : Int64) (nanos : Int32) : Option Instant :=
  if ¬ (0 ≤ nanos ∧ nanos < 1000000000) then none
  else if ¬ (-62135596800 ≤ seconds ∧ seconds ≤ 253402300799) then none
  else some ⟨seconds, nanos⟩

def ofNanos? (total : Int) : Option Instant := do
  make? (← checkedInt (total / 1000000000)) (.ofInt (total % 1000000000))

def ofUnix (unit : TimeUnit) (n : Int64) : Run (Option Instant) :=
  match unit with
  | .micros => do return ofNanos? (← wide (n.toInt * 1000))
  | .millis => do return ofNanos? (← wide (n.toInt * 1000000))
  | .seconds => return make? n 0

def ofDate? (calendar : Calendar δ) (date : δ) : Option Instant :=
  make? (calendar.seconds date) (calendar.nanos date).toInt32

def toUnix (unit : TimeUnit) (i : Instant) : Run Int := unixNumber unit i.seconds.toInt i.nanos.toNatClampNeg

/-- A product or a sum that is out of range here is none, and no reason to stop. -/
def addMicros (i : Instant) (micros : Int) : Run (Option Instant) := do
  match (wide (micros * 1000)).toOption with
  | none => return none
  | some delta =>
    return (wide ((← totalNanos i.seconds.toInt i.nanos.toNatClampNeg) + delta)).toOption.bind ofNanos?

def order (i j : Instant) : Ordering := (compare i.seconds j.seconds).then (compare i.nanos j.nanos)

/-- What the functions that make instants lead to. -/
inductive Obtainable (calendar : Calendar δ) : Instant → Prop
  | make {seconds : Int64} {nanos : Int32} {i : Instant} : make? seconds nanos = some i → Obtainable calendar i
  | unix {unit : TimeUnit} {n : Int64} {i : Instant} : ofUnix unit n = .ok (some i) → Obtainable calendar i
  | date {d : δ} {i : Instant} : ofDate? calendar d = some i → Obtainable calendar i
  | add {i j : Instant} {micros : Int} : Obtainable calendar i → -2 ^ 127 ≤ micros → micros < 2 ^ 127 →
      addMicros i micros = .ok (some j) → Obtainable calendar j

end Functions

section Words

/-- An instant of the engine in words. -/
def ofTimestamp (t : Timestamp) : Instant := ⟨.ofInt t.seconds, .ofInt t.nanos⟩

variable (t u : Timestamp)

theorem toInt_seconds : (ofTimestamp t).seconds.toInt = t.seconds := by
  have first := t.first_le
  have last := t.le_last
  exact Int64.toInt_ofInt_of_le (by omega) (by omega)

theorem toInt_nanos : (ofTimestamp t).nanos.toInt = t.nanos := by
  have bound := t.nanos_lt
  exact Int32.toInt_ofInt_of_le (by omega) (by omega)

theorem toNatClampNeg_nanos : (ofTimestamp t).nanos.toNatClampNeg = t.nanos :=
  congrArg Int.toNat (toInt_nanos t)

theorem make?_eq (seconds : Int64) (nanos : Int32) :
    make? seconds nanos = (Timestamp.make? seconds.toInt nanos.toInt).map ofTimestamp := by
  have literals : (-62135596800 : Int64).toInt = -62135596800 ∧ (253402300799 : Int64).toInt = 253402300799 ∧
      (1000000000 : Int32).toInt = 1000000000 ∧ (0 : Int32).toInt = 0 := by decide
  obtain ⟨first, last, second, zero⟩ := literals
  simp only [make?, Int64.le_iff_toInt_le, Int32.le_iff_toInt_le, Int32.lt_iff_toInt_lt, first, last, second, zero]
  cases made : Timestamp.make? seconds.toInt nanos.toInt with
  | some t =>
    obtain ⟨same_seconds, same_nanos⟩ := Timestamp.make?_eq_some_iff.mp made
    have words : ofTimestamp t = ⟨seconds, nanos⟩ := by
      rw [ofTimestamp, same_seconds, same_nanos, Int64.ofInt_toInt, Int32.ofInt_toInt]
    have first_le := t.first_le
    have le_last := t.le_last
    have bound := t.nanos_lt
    rw [if_neg (by omega), if_neg (by omega), Option.map_some, words]
  | none =>
    rw [Timestamp.make?] at made
    split at made
    next => contradiction
    next outside =>
      split
      · rfl
      · rw [if_pos (by omega)]
        rfl

theorem ofNanos?_eq (total : Int) : ofNanos? total = (Timestamp.ofNanos? total).map ofTimestamp := by
  have nanos : (Int32.ofInt (total % 1000000000)).toInt = total % 1000000000 :=
    Int32.toInt_ofInt_of_le (by omega) (by omega)
  rw [ofNanos?]
  cases checked : checkedInt (total / 1000000000) with
  | some seconds =>
    rw [Option.bind_eq_bind, Option.bind_some, make?_eq, nanos, toInt_of_checkedInt checked]
    rfl
  | none =>
    -- seconds that leave the word are out of range anyway
    have leaves := not_inInt64_of_checkedInt checked
    have outside : ¬ Timestamp.InRange total := by
      rintro ⟨low, high⟩
      exact leaves ⟨by omega, by omega⟩
    rw [Timestamp.ofNanos?_eq_none_iff.mpr outside]
    rfl

theorem ofUnix_eq (unit : TimeUnit) (n : Int64) :
    ofUnix unit n = .ok ((Timestamp.ofUnix? unit n.toInt).map ofTimestamp) := by
  have low := n.le_toInt
  have high := n.toInt_lt
  cases unit with
  | micros | millis =>
    rw [ofUnix, wide_eq (by omega) (by omega)]
    exact congrArg Except.ok (ofNanos?_eq _)
  | seconds => exact congrArg Except.ok (make?_eq n 0)

theorem ofDate?_eq (calendar : Calendar δ) (date : δ) : ofDate? calendar date =
    (Timestamp.make? (calendar.seconds date).toInt (calendar.nanos date).toInt32.toInt).map ofTimestamp :=
  make?_eq _ _

theorem toUnix_eq (unit : TimeUnit) : (ofTimestamp t).toUnix unit = .ok (t.toUnix unit) := by
  rw [toUnix, toInt_seconds, toNatClampNeg_nanos, unixNumber_eq]
  cases unit <;> rfl

/-- What leaves two words is out of range. -/
theorem ofNanos?_wide (total : Int) :
    (wide total).toOption.bind ofNanos? = (Timestamp.ofNanos? total).map ofTimestamp := by
  rw [wide]
  split
  next => exact ofNanos?_eq total
  next leaves =>
    have outside : ¬ Timestamp.InRange total := by
      rintro ⟨low, high⟩
      exact leaves ⟨by omega, by omega⟩
    rw [Timestamp.ofNanos?_eq_none_iff.mpr outside]
    rfl

theorem addMicros_eq (micros : Int) :
    (ofTimestamp t).addMicros micros = .ok ((t.addMicros? micros).map ofTimestamp) := by
  rw [addMicros, toInt_seconds, toNatClampNeg_nanos, totalNanos_eq, Timestamp.addMicros?_eq]
  by_cases fits : -0x80000000000000000000000000000000 ≤ micros * 1000 ∧
      micros * 1000 < 0x80000000000000000000000000000000
  · rw [wide_eq fits.1 fits.2]
    exact congrArg Except.ok (ofNanos?_wide _)
  · have product : wide (micros * 1000) = .error .overflow := if_neg fits
    have outside : ¬ Timestamp.InRange (t.totalNanos + micros * 1000) := by
      rintro ⟨low, high⟩
      obtain ⟨first, last⟩ := t.totalNanos_inRange
      omega
    rw [product, Timestamp.ofNanos?_eq_none_iff.mpr outside]
    rfl

theorem order_eq : (ofTimestamp t).order (ofTimestamp u) = t.order u := by
  have seconds (a b : Int64) : compare a b = compare a.toInt b.toInt := by
    simp only [compare, compareOfLessAndEq, Int64.lt_iff_toInt_lt, ← Int64.toInt_inj]
  have nanos (a b : Int32) : compare a b = compare a.toInt b.toInt := by
    simp only [compare, compareOfLessAndEq, Int32.lt_iff_toInt_lt, ← Int32.toInt_inj]
  have naturals (m n : Nat) : compare (m : Int) n = compare m n := by
    simp only [compare, compareOfLessAndEq, Int.ofNat_lt, Int.ofNat_inj]
  rw [order, seconds, nanos, toInt_seconds, toInt_seconds, toInt_nanos, toInt_nanos, naturals, Timestamp.order]

end Words

section Exactness

variable {calendar : Calendar δ} {i : Instant} {t u : Timestamp} {unit : TimeUnit}

theorem obtainable_ofTimestamp (calendar : Calendar δ) (t : Timestamp) : Obtainable calendar (ofTimestamp t) := by
  have made := make?_eq (ofTimestamp t).seconds (ofTimestamp t).nanos
  rw [toInt_seconds, toInt_nanos, Timestamp.make?_eq_some_iff.mpr ⟨rfl, rfl⟩] at made
  exact .make made

/-- The instants of the engine are all that there are. -/
theorem Obtainable.eq_ofTimestamp (h : Obtainable calendar i) : ∃ t, i = ofTimestamp t := by
  have of_map {made : Option Timestamp} {i : Instant} (h : made.map ofTimestamp = some i) :
      ∃ t, i = ofTimestamp t := by
    obtain ⟨t, _, same⟩ := Option.map_eq_some_iff.mp h
    exact ⟨t, same.symm⟩
  induction h with
  | make made => exact of_map ((make?_eq _ _).symm.trans made)
  | unix made => exact of_map (Except.ok.inj ((ofUnix_eq _ _).symm.trans made))
  | date made => exact of_map ((ofDate?_eq _ _).symm.trans made)
  | add _ _ _ moved ih =>
    obtain ⟨t, rfl⟩ := ih
    exact of_map (Except.ok.inj ((addMicros_eq t _).symm.trans moved))

/-- A computation ends with the instant of so many nanoseconds where they are in range, and else with none, on the
machine as in the engine. -/
def Makes (x : Run (Option Instant)) (made : Option Timestamp) (total : Int) : Prop :=
  x = .ok (made.map ofTimestamp) ∧ (made.isSome ↔ Timestamp.InRange total) ∧ ∀ t ∈ made, t.totalNanos = total

theorem makes_ofNanos? {x : Run (Option Instant)} {total : Int}
    (h : x = .ok ((Timestamp.ofNanos? total).map ofTimestamp)) : Makes x (Timestamp.ofNanos? total) total :=
  ⟨h, Timestamp.isSome_ofNanos?_iff, fun _ made => Timestamp.ofNanos?_eq_some_iff.mp made⟩

theorem toUnix_inInt64 (unit : TimeUnit) (t : Timestamp) : InInt64 (t.toUnix unit) := by
  obtain ⟨low, high⟩ := t.totalNanos_inRange
  rw [Timestamp.toUnix_eq]
  cases unit <;> exact ⟨by rw [TimeUnit.nanos]; omega, by rw [TimeUnit.nanos]; omega⟩

theorem ofUnix_toUnix (unit : TimeUnit) (t : Timestamp) : ∃ (n : Int64) (u : Timestamp),
    (ofTimestamp t).toUnix unit = .ok n.toInt ∧ ofUnix unit n = .ok (some (ofTimestamp u)) ∧
      u.totalNanos = t.totalNanos / unit.nanos * unit.nanos := by
  obtain ⟨low, high⟩ := toUnix_inInt64 unit t
  have word : (Int64.ofInt (t.toUnix unit)).toInt = t.toUnix unit := Int64.toInt_ofInt_of_le low high
  obtain ⟨u, made, rounded⟩ := Timestamp.ofUnix?_toUnix unit t
  refine ⟨.ofInt (t.toUnix unit), u, ?_, ?_, rounded⟩
  · rw [toUnix_eq, word]
  · rw [ofUnix_eq, word, made]
    rfl

theorem toUnix_of_ofUnix {n : Int64} (made : ofUnix unit n = .ok (some i)) : i.toUnix unit = .ok n.toInt := by
  rw [ofUnix_eq, Except.ok.injEq, Option.map_eq_some_iff] at made
  obtain ⟨t, made, rfl⟩ := made
  rw [toUnix_eq, Timestamp.toUnix_of_ofUnix? made]

/-- Instants are exact counts of nanoseconds in a fixed range, whichever way they are made. -/
theorem instants_exact (calendar : Calendar δ) :
    (∀ i, Obtainable calendar i → (0 ≤ i.nanos.toInt ∧ i.nanos.toInt < 10 ^ 9) ∧
      -62135596800 ≤ i.seconds.toInt ∧ i.seconds.toInt ≤ 253402300799) ∧
    (∀ i, Obtainable calendar i ↔ ∃ t, i = ofTimestamp t) ∧
    (∀ n, Makes (ofUnix .millis n) (Timestamp.ofMillis? n.toInt) (n.toInt * 10 ^ 6) ∧
      Makes (ofUnix .micros n) (Timestamp.ofMicros? n.toInt) (n.toInt * 10 ^ 3)) ∧
    (∀ t micros, -2 ^ 127 ≤ micros → micros < 2 ^ 127 →
      Makes ((ofTimestamp t).addMicros micros) (t.addMicros? micros) (t.totalNanos + 1000 * micros)) ∧
    (∀ t u, (ofTimestamp t).order (ofTimestamp u) = compare t.totalNanos u.totalNanos ∧
      t.order u = compare t.totalNanos u.totalNanos) ∧
    (∀ t unit, (ofTimestamp t).toUnix unit = .ok (t.totalNanos / unit.nanos) ∧
      t.toUnix unit = t.totalNanos / unit.nanos) ∧
    ∀ unit, (∀ t, ∃ (n : Int64) (u : Timestamp), (ofTimestamp t).toUnix unit = .ok n.toInt ∧
        ofUnix unit n = .ok (some (ofTimestamp u)) ∧ u.totalNanos = t.totalNanos / unit.nanos * unit.nanos) ∧
      ∀ n i, ofUnix unit n = .ok (some i) → i.toUnix unit = .ok n.toInt := by
  refine ⟨fun i h => ?_, fun i => ⟨Obtainable.eq_ofTimestamp, ?_⟩, fun n => ⟨?_, ?_⟩, fun t micros _ _ => ?_,
    fun t u => ⟨?_, t.order_eq_compare u⟩, fun t unit => ⟨?_, t.toUnix_eq unit⟩,
    fun unit => ⟨ofUnix_toUnix unit, fun n i => toUnix_of_ofUnix⟩⟩
  · obtain ⟨t, rfl⟩ := h.eq_ofTimestamp
    have bound := t.nanos_lt
    rw [toInt_seconds, toInt_nanos]
    exact ⟨⟨by omega, by omega⟩, t.first_le, t.le_last⟩
  · rintro ⟨t, rfl⟩
    exact obtainable_ofTimestamp calendar t
  · exact makes_ofNanos? (ofUnix_eq .millis n)
  · exact makes_ofNanos? (ofUnix_eq .micros n)
  · rw [Int.mul_comm]
    exact makes_ofNanos? (addMicros_eq t micros)
  · rw [order_eq, t.order_eq_compare]
  · rw [toUnix_eq, t.toUnix_eq]

/-- A nanosecond before the epoch is in its last microsecond, which begins a thousand nanoseconds before the epoch.
The greatest number of microseconds, which cannot be counted in nanoseconds, leads out of range. -/
theorem instants_exact_before_epoch :
    let calendar : Calendar (Int64 × UInt32) := ⟨Prod.fst, Prod.snd⟩
    let i : Instant := ⟨-1, 999999999⟩
    let t : Timestamp := ⟨-1, 999999999, by decide, by decide, by decide⟩
    ofDate? calendar (-1, 999999999) = some i ∧ ofDate? calendar (-1, 1000000000) = none ∧ Obtainable calendar i ∧
      i.nanos.toInt < 10 ^ 9 ∧ i = ofTimestamp t ∧ i.toUnix .micros = .ok (-1) ∧
      (∃ u : Timestamp, ofUnix .micros (-1) = .ok (some (ofTimestamp u)) ∧ u.totalNanos = -1000) ∧
      i.addMicros (2 ^ 127 - 1) = .ok none := by
  intro calendar i t
  have made : ofDate? calendar (-1, 999999999) = some i := by decide
  have obtainable : Obtainable calendar i := .date made
  obtain ⟨bounds, _, _, added, _, read, again⟩ := instants_exact calendar
  have micros : i.toUnix .micros = .ok (-1) := (read t .micros).1
  obtain ⟨n, u, number, back, rounded⟩ := (again .micros).1 t
  obtain rfl : n = -1 := Int64.toInt_inj.mp (Except.ok.inj (number.symm.trans micros))
  obtain ⟨moved, within, _⟩ := added t (2 ^ 127 - 1) (by decide) (by decide)
  have none : t.addMicros? (2 ^ 127 - 1) = none := by
    rw [← Option.not_isSome_iff_eq_none, within]
    exact fun range => absurd range.2 (by decide)
  rw [none] at moved
  exact ⟨made, by decide, obtainable, (bounds i obtainable).1.2, rfl, micros, ⟨u, back, rounded⟩, moved⟩

end Exactness
end Instant
end Machine
end DocQuery
