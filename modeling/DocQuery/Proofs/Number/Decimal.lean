import Mathlib.Tactic.Ring
import DocQuery.Number.DoubleText
import DocQuery.Proofs.Number.Encoding

/-! Zeros at the end of the digits of a decimal do not change the double that it denotes, and the
decimal chosen for a double denotes that double. -/
namespace DocQuery

theorem nearestEven_scale (num den : Nat) {k : Nat} (h : 0 < k) :
    nearestEven (num * k) (den * k) = nearestEven num den := by
  have less (a b : Nat) : a * k < b * k ↔ a < b := Nat.mul_lt_mul_right h
  simp only [nearestEven, Nat.mul_div_mul_right _ _ h, Nat.mul_mod_mul_right, ← Nat.mul_assoc, less]

theorem magnitudeCode_scale (num den : Nat) {k : Nat} (h : 0 < k) :
    magnitudeCode (num * k) (den * k) = magnitudeCode num den := by
  simp only [magnitudeCode, Nat.mul_div_mul_right _ _ h, Nat.mul_right_comm den k,
    nearestEven_scale _ _ h]

namespace Double

theorem ofRatio_scale (negative : Bool) (num den : Nat) {k : Nat} (h : 0 < k) :
    ofRatio negative (num * k) (den * k) = ofRatio negative num den := by
  rw [ofRatio, magnitudeCode_scale _ _ h, ofRatio]

theorem digitCount_ten {n : Nat} (h : n ≠ 0) : digitCount (n * 10) = digitCount n + 1 := by
  have large : 10 ≤ n * 10 := by omega
  rw [digitCount, Nat.toDigits_of_base_le (by decide) large, List.length_append,
    Nat.mul_div_cancel _ (by decide)]
  rfl

theorem ofDecimal_ten (negative : Bool) {digits : Nat} (exponent : Int) (h : digits ≠ 0) :
    ofDecimal negative (digits * 10) exponent = ofDecimal negative digits (exponent + 1) := by
  have nonzero : digits * 10 ≠ 0 := by omega
  have size : exponent + ((digitCount digits + 1 : Nat) : Int) =
      exponent + 1 + (digitCount digits : Int) := by omega
  simp only [ofDecimal, digitCount_ten h, size, h, nonzero, false_or, Nat.pow_eq]
  generalize unitsPerOne = unit
  split
  · rfl
  split
  · rfl
  rcases Int.lt_trichotomy exponent (-1) with low | last | high
  · rw [if_neg (by omega), if_neg (by omega)]
    have places : (-exponent).toNat = (-(exponent + 1)).toNat + 1 := by omega
    rw [places, Nat.pow_succ, Nat.mul_right_comm, ofRatio_scale _ _ _ (by decide)]
  · subst last
    rw [if_neg (by decide), if_pos (by decide)]
    have tenth := ofRatio_scale negative (digits * unit) 1 (k := 10) (by decide)
    simpa [Nat.mul_right_comm] using tenth
  · rw [if_pos (by omega), if_pos (by omega)]
    have places : (exponent + 1).toNat = exponent.toNat + 1 := by omega
    rw [places, Nat.pow_succ, Nat.mul_assoc digits, Nat.mul_comm 10]

theorem ofDecimal_zeros (negative : Bool) {digits : Nat} (zeros : Nat) (exponent : Int)
    (h : digits ≠ 0) :
    ofDecimal negative (digits * 10 ^ zeros) exponent =
      ofDecimal negative digits (exponent + zeros) := by
  induction zeros generalizing exponent with
  | zero => simp
  | succ zeros ih =>
    have nonzero : digits * 10 ^ zeros ≠ 0 := Nat.mul_ne_zero h (by simp)
    rw [Nat.pow_succ, ← Nat.mul_assoc, ofDecimal_ten _ _ nonzero, ih]
    congr 1
    omega

theorem ofDecimal_strip (negative : Bool) (decimal : Decimal) :
    ofDecimal negative decimal.strip.digits decimal.strip.exponent =
      ofDecimal negative decimal.digits decimal.exponent := by
  fun_induction Decimal.strip decimal with
  | case1 decimal h ih =>
    have tens : decimal.digits / 10 * 10 = decimal.digits := by omega
    have nonzero : decimal.digits / 10 ≠ 0 := by omega
    rw [ih, ← ofDecimal_ten negative decimal.exponent nonzero, tens]
  | case2 => rfl

theorem strip_digits_pos (decimal : Decimal) (h : decimal.digits ≠ 0) :
    decimal.strip.digits ≠ 0 := by
  fun_induction Decimal.strip decimal with
  | case1 decimal _ ih => exact ih (by simp only; omega)
  | case2 => exact h

theorem units_lt (d : Double) : d.units < 2 ^ 53 * 2 ^ 2046 := by
  have fraction : d.fraction < 2 ^ 52 := Nat.mod_lt _ (by decide)
  have exponent : d.exponent - 1 ≤ 2046 := by
    have bound : d.exponent < 2048 := Nat.mod_lt _ (by decide)
    omega
  unfold units
  generalize 2046 = top at exponent ⊢
  split
  · have positive := Nat.two_pow_pos top
    calc d.fraction < 2 ^ 53 := by omega
      _ ≤ 2 ^ 53 * 2 ^ top := Nat.le_mul_of_pos_right _ positive
  · calc (2 ^ 52 + d.fraction) * 2 ^ (d.exponent - 1)
        < 2 ^ 53 * 2 ^ (d.exponent - 1) :=
          Nat.mul_lt_mul_of_pos_right (by omega) (Nat.two_pow_pos _)
      _ ≤ 2 ^ 53 * 2 ^ top := Nat.mul_le_mul_left _ (Nat.pow_le_pow_right (by decide) exponent)

/-- What turns units of `2 ^ -1074` into units of `10 ^ -1074`. -/
def exactScale : Nat := Nat.pow 5 1074

theorem exactScale_pos : 0 < exactScale := by decide +kernel

theorem exactScale_large : Nat.pow 10 750 ≤ exactScale := by decide +kernel

theorem exactScale_small : 2 ^ 53 * 2 ^ 2046 * exactScale ≤ Nat.pow 10 1383 := by decide +kernel

theorem unitsPerOne_exactScale : unitsPerOne * exactScale = Nat.pow 10 1074 := by decide +kernel

theorem exactDecimal_digits (d : Double) : d.exactDecimal.digits = d.units * exactScale := by
  simp only [exactDecimal, exactScale]

theorem digitCount_le_iff {n k : Nat} (h : 0 < k) : digitCount n ≤ k ↔ n < Nat.pow 10 k :=
  Nat.length_toDigits_le_iff (by decide) h

theorem product_bounds {a b low high top : Nat} (nonzero : a ≠ 0) (positive : 0 < b) (hl : low ≤ b)
    (hb : a < top) (hh : top * b ≤ high) : low ≤ a * b ∧ a * b < high :=
  ⟨hl.trans (Nat.le_mul_of_pos_left _ (Nat.pos_of_ne_zero nonzero)),
    (Nat.mul_lt_mul_of_pos_right hb positive).trans_le hh⟩

theorem exactDecimal_size {d : Double} (h : d.units ≠ 0) :
    750 < digitCount d.exactDecimal.digits ∧ digitCount d.exactDecimal.digits ≤ 1383 := by
  have bounds := product_bounds h exactScale_pos exactScale_large (units_lt d) exactScale_small
  rw [← Nat.not_le, digitCount_le_iff (by decide), digitCount_le_iff (by decide), Nat.not_lt]
  exact bounds

theorem ofDecimal_places (negative : Bool) (places : Nat) {digits : Nat}
    (low : places ≤ 400 + digitCount digits) (high : digitCount digits ≤ 400 + places)
    (h : digits ≠ 0) :
    ofDecimal negative digits (-(places : Int)) =
      ofRatio negative (digits * unitsPerOne) (Nat.pow 10 places) := by
  unfold ofDecimal
  generalize unitsPerOne = unit
  rw [if_neg (by omega), if_neg (by omega)]
  split
  · obtain rfl : places = 0 := by omega
    simp
  · rw [Int.neg_neg, Int.toNat_natCast]

theorem ofDecimal_exactDecimal {d : Double} (number : d.isNaN = false) (h : d.units ≠ 0) :
    ofDecimal d.isNegative d.exactDecimal.digits d.exactDecimal.exponent = d := by
  obtain ⟨low, high⟩ := exactDecimal_size h
  have positive : 0 < Nat.pow 10 1074 := by decide +kernel
  have nonzero : d.exactDecimal.digits ≠ 0 := by
    intro zero
    rw [zero] at low
    exact absurd low (by decide)
  have ratio := ofDecimal_places d.isNegative 1074 (by omega) (by omega) nonzero
  refine ratio.trans ?_
  have scaled : d.exactDecimal.digits * unitsPerOne = d.units * Nat.pow 10 1074 := by
    rw [← unitsPerOne_exactScale, exactDecimal_digits, Nat.mul_assoc, Nat.mul_comm unitsPerOne]
  rw [scaled]
  generalize Nat.pow 10 1074 = tens at positive ⊢
  exact ofRatio_exact number positive

theorem getD_find?_cases (p : α → Bool) (xs : List α) (x : α) :
    (xs.find? p).getD x = x ∨ p ((xs.find? p).getD x) = true := by
  cases found : xs.find? p with
  | none => exact .inl rfl
  | some y => exact .inr (List.find?_some found)

theorem shortest_cases (d : Double) :
    d.shortest = d.exactDecimal ∨ d.readsBack d.shortest = true := by
  unfold shortest
  exact getD_find?_cases _ _ _

theorem ofDecimal_shortest {d : Double} (number : d.isNaN = false) (h : d.units ≠ 0) :
    ofDecimal d.isNegative d.shortest.digits d.shortest.exponent = d := by
  rcases shortest_cases d with same | back
  · rw [same]
    exact ofDecimal_exactDecimal number h
  · exact of_decide_eq_true back

end Double
end DocQuery
