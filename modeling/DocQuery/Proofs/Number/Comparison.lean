import Mathlib.Tactic.Linarith
import DocQuery.Value.Order

/-! Comparisons of numbers are comparisons of what the numbers denote, counted in units of the least
positive double: no step of them rounds. NaN is kept apart, before every number. -/
namespace DocQuery

theorem unitsPerOne_pos : (0 : Int) < Double.unitsPerOne := by
  unfold Double.unitsPerOne
  generalize 1074 = n
  exact Int.natCast_pos.mpr (Nat.two_pow_pos n)

/-- Comparing whole parts and then the sign of what is left compares the numbers themselves. -/
theorem compare_whole_parts (i n : Int) {u : Int} (hu : 0 < u) :
    (compare i (n.tdiv u)).then (compare 0 (n.tmod u)) = compare (i * u) n := by
  have parts : n.tdiv u * u + n.tmod u = n := by
    rw [mul_comm]
    exact Int.mul_tdiv_add_tmod n u
  have above := Int.tmod_lt_of_pos n hu
  have below := Int.lt_tmod_of_pos n hu
  rcases lt_trichotomy i (n.tdiv u) with h | h | h
  · have step : i * u + u ≤ n.tdiv u * u := by nlinarith
    have less : i * u < n := by linarith
    rw [Int.compare_eq_lt.mpr h, Int.compare_eq_lt.mpr less]
    rfl
  · have shift : compare (i * u) n = compare (i * u + 0) (i * u + n.tmod u) := by
      rw [h, parts, add_zero]
    rw [Int.compare_eq_eq.mpr h, Ordering.eq_then, shift]
    rcases lt_trichotomy 0 (n.tmod u) with hr | hr | hr
    · rw [Int.compare_eq_lt.mpr hr, Int.compare_eq_lt.mpr (Int.add_lt_add_left hr (i * u))]
    · rw [← hr, Int.compare_eq_eq.mpr rfl, Int.compare_eq_eq.mpr rfl]
    · rw [Int.compare_eq_gt.mpr hr, Int.compare_eq_gt.mpr (Int.add_lt_add_left hr (i * u))]
  · have step : n.tdiv u * u + u ≤ i * u := by nlinarith
    have greater : n < i * u := by linarith
    rw [Int.compare_eq_gt.mpr h, Int.compare_eq_gt.mpr greater]
    rfl

theorem compare_mul_units (i j : Int) :
    compare i j = compare (i * Double.unitsPerOne) (j * Double.unitsPerOne) := by
  have hu := unitsPerOne_pos
  rcases lt_trichotomy i j with h | h | h
  · rw [Int.compare_eq_lt.mpr h, Int.compare_eq_lt.mpr (Int.mul_lt_mul_of_pos_right h hu)]
  · rw [h, Int.compare_eq_eq.mpr rfl, Int.compare_eq_eq.mpr rfl]
  · rw [Int.compare_eq_gt.mpr h, Int.compare_eq_gt.mpr (Int.mul_lt_mul_of_pos_right h hu)]

/-- The range checks only settle early what the whole parts settle as well. -/
theorem compareIntDouble_eq (i : Int64) (d : Double) :
    compareIntDouble i d = compare (i.toInt * Double.unitsPerOne) d.scaled := by
  have hu := unitsPerOne_pos
  have below := i.toInt_lt
  have above := i.le_toInt
  unfold compareIntDouble Double.whole Double.wholeRemainder
  split
  next h =>
    have less : i.toInt * Double.unitsPerOne < d.scaled := by nlinarith
    rw [Int.compare_eq_lt.mpr less]
  next =>
    split
    next h =>
      have greater : d.scaled < i.toInt * Double.unitsPerOne := by nlinarith
      rw [Int.compare_eq_gt.mpr greater]
    next => exact compare_whole_parts _ _ hu

namespace Number

/-- What a number denotes, in units; NaN denotes nothing. -/
def denoted? : Number → Option Int
  | integer i => some (i.toInt * Double.unitsPerOne)
  | double d => if d.isNaN then none else some d.scaled

theorem compare?_eq (a b : Number) :
    a.compare? b = (do return compare (← a.denoted?) (← b.denoted?)) := by
  cases a with
  | integer i =>
    cases b with
    | integer j => exact congrArg some (compare_mul_units i.toInt j.toInt)
    | double e =>
      simp only [compare?, denoted?]
      split
      · rfl
      · exact congrArg some (compareIntDouble_eq i e)
  | double d =>
    cases b with
    | integer j =>
      simp only [compare?, denoted?]
      split
      · rfl
      · rw [compareIntDouble_eq, Int.compare_swap]
        rfl
    | double e =>
      simp only [compare?, denoted?, Double.compare?]
      by_cases hd : d.isNaN <;> by_cases he : e.isNaN <;> simp only [hd, he] <;> rfl

theorem order_eq (a b : Number) : a.order b = compare a.denoted? b.denoted? := by
  cases a with
  | integer i =>
    cases b with
    | integer j => exact compare_mul_units i.toInt j.toInt
    | double e =>
      simp only [order, denoted?]
      split
      · rfl
      · exact compareIntDouble_eq i e
  | double d =>
    cases b with
    | integer j =>
      simp only [order, denoted?]
      split
      · rfl
      · rw [compareIntDouble_eq, Int.compare_swap]
        rfl
    | double e =>
      simp only [order, denoted?, Double.order]
      by_cases hd : d.isNaN <;> by_cases he : e.isNaN <;> simp only [hd, he] <;> rfl

instance : Std.TransCmp Number.order where
  eq_swap := by
    intro a b
    rw [order_eq, order_eq]
    exact Std.OrientedCmp.eq_swap
  isLE_trans := by
    intro a b c hab hbc
    rw [order_eq] at hab hbc ⊢
    exact Std.TransCmp.isLE_trans hab hbc

end Number
end DocQuery
