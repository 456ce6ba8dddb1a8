import Mathlib.Algebra.Order.Field.Basic
import Mathlib.Order.Compare
import Mathlib.Order.WithBot
import Mathlib.Tactic.NormNum
import DocQuery.Proofs.Number.Canonical

/-! Doubles as rational numbers with an infinity on either side, read off their codes. -/
namespace DocQuery

/-- The rational numbers between two infinities. -/
abbrev ExtendedRat := WithBot (WithTop Rat)

namespace ExtendedRat

def finite (q : Rat) : ExtendedRat := ((q : WithTop Rat) : WithBot (WithTop Rat))

def infinite (negative : Bool) : ExtendedRat := if negative then ⊥ else ((⊤ : WithTop Rat) : WithBot (WithTop Rat))

variable {p q : Rat}

theorem finite_lt_finite (h : p < q) : finite p < finite q := WithBot.coe_lt_coe.mpr (WithTop.coe_lt_coe.mpr h)

theorem lt_finite (q : Rat) : infinite true < finite q := WithBot.bot_lt_coe _

theorem finite_lt (q : Rat) : finite q < infinite false := WithBot.coe_lt_coe.mpr (WithTop.coe_lt_top q)

end ExtendedRat

namespace Double

/-- What a code denotes: an infinity or, with its sign, a number of units that are a power of two. It is meant for
numbers. -/
def value (d : Double) : ExtendedRat :=
  if d.isInfinite then .infinite d.isNegative
  else
    let sign : Rat := if d.isNegative then -1 else 1
    let magnitude : Rat :=
      if d.exponent = 0 then d.fraction * 2 ^ (-1074 : Int)
      else (2 ^ 52 + d.fraction) * 2 ^ ((d.exponent : Int) - 1075)
    .finite (sign * magnitude)

variable {d : Double}

theorem cast_two_pow (n : Nat) : ((Nat.pow 2 n : Nat) : Rat) = 2 ^ (n : Int) := by
  rw [Nat.pow_eq, Nat.cast_pow, Nat.cast_ofNat, zpow_natCast]

theorem cast_unitsPerOne : (unitsPerOne : Rat) = 2 ^ (1074 : Int) := by
  have exponent : (1074 : Int) = ((1074 : Nat) : Int) := rfl
  unfold unitsPerOne
  rw [exponent]
  generalize 1074 = n
  exact cast_two_pow n

theorem magnitude_eq (d : Double) :
    (if d.exponent = 0 then d.fraction * 2 ^ (-1074 : Int)
      else (2 ^ 52 + d.fraction) * 2 ^ ((d.exponent : Int) - 1075) : Rat) = d.units / unitsPerOne := by
  rw [cast_unitsPerOne, units]
  split
  next => rw [zpow_neg, div_eq_mul_inv]
  next normal =>
    have exponent : (d.exponent : Int) - 1075 = ((d.exponent - 1 : Nat) : Int) - 1074 := by omega
    rw [exponent, zpow_sub₀ two_ne_zero, Nat.cast_mul, cast_two_pow, Nat.cast_add, mul_div_assoc]
    norm_num

theorem value_of_infinite (h : d.isInfinite) : d.value = .infinite d.isNegative := by rw [value, if_pos h]

/-- A finite double is its units over those that make one. -/
theorem value_of_finite (h : d.isInfinite = false) : d.value = .finite (d.scaled / unitsPerOne) := by
  have signed : (if d.isNegative then -1 else 1 : Rat) * (d.units / unitsPerOne) = d.scaled / unitsPerOne := by
    rw [scaled]
    cases d.isNegative with
    | true => rw [if_pos rfl, if_pos rfl, Int.cast_neg, Int.cast_natCast, neg_one_mul, neg_div]
    | false => rw [if_neg Bool.false_ne_true, if_neg Bool.false_ne_true, Int.cast_natCast, one_mul]
  rw [← signed, ← magnitude_eq, value, h]
  rfl

/-- Units compare as the numbers that they make. -/
theorem compares_units (m n : Int) :
    (compare m n).Compares (ExtendedRat.finite (m / unitsPerOne)) (ExtendedRat.finite (n / unitsPerOne)) := by
  have positive : (0 : Rat) < unitsPerOne := by exact_mod_cast unitsPerOne_pos
  have increases {m n : Int} (h : m < n) : (m / unitsPerOne : Rat) < n / unitsPerOne :=
    (div_lt_div_iff_of_pos_right positive).mpr (Int.cast_lt.mpr h)
  rcases lt_trichotomy m n with less | same | greater
  · rw [Int.compare_eq_lt.mpr less]
    exact ExtendedRat.finite_lt_finite (increases less)
  · rw [Int.compare_eq_eq.mpr same, same]
    exact rfl
  · rw [Int.compare_eq_gt.mpr greater]
    exact ExtendedRat.finite_lt_finite (increases greater)

end Double

/-- The comparison of an integer with a number is that of what they denote. -/
theorem compareIntDouble_compares (i : Int64) (d : Double) :
    (compareIntDouble i d).Compares (ExtendedRat.finite i.toInt) d.value := by
  have positive := unitsPerOne_pos
  rw [compareIntDouble_eq]
  cases infinite : d.isInfinite with
  | true =>
    have low := i.le_toInt
    have high := i.toInt_lt
    have beyond := Double.infinite_beyond infinite
    rw [Double.value_of_infinite infinite, Double.scaled]
    cases d.isNegative with
    | true =>
      have above : -(d.units : Int) < i.toInt * Double.unitsPerOne := by nlinarith
      rw [if_pos rfl, Int.compare_eq_gt.mpr above]
      exact ExtendedRat.lt_finite _
    | false =>
      have below : i.toInt * Double.unitsPerOne < (d.units : Int) := by nlinarith
      rw [if_neg Bool.false_ne_true, Int.compare_eq_lt.mpr below]
      exact ExtendedRat.finite_lt _
  | false =>
    have one : (Double.unitsPerOne : Rat) ≠ 0 := by exact_mod_cast positive.ne'
    have integer : ((i.toInt * Double.unitsPerOne : Int) / Double.unitsPerOne : Rat) = i.toInt := by
      rw [Int.cast_mul, Int.cast_natCast, mul_div_cancel_right₀ _ one]
    have ordered := Double.compares_units (i.toInt * Double.unitsPerOne) d.scaled
    rw [integer] at ordered
    rw [Double.value_of_finite infinite]
    exact ordered

end DocQuery
