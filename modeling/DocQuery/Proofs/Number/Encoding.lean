import Mathlib.Tactic.Ring
import DocQuery.Number.Rounding

/-! Codes of doubles follow the magnitudes that they denote, so a magnitude and a sign are one double,
and rounding a magnitude that has a code finds that code. -/
namespace DocQuery

/-- The magnitude of a code without its sign place. -/
def codeUnits (code : Nat) : Nat :=
  if code / 0x10000000000000 = 0 then code % 0x10000000000000
  else (0x10000000000000 + code % 0x10000000000000) * 2 ^ (code / 0x10000000000000 - 1)

theorem codeUnits_small {code : Nat} (h : code / 0x10000000000000 = 0) : codeUnits code = code := by
  rw [codeUnits, if_pos h]
  omega

theorem codeUnits_large {code n : Nat} (h : code / 0x10000000000000 = n + 1) :
    codeUnits code = (0x10000000000000 + code % 0x10000000000000) * 2 ^ n := by
  rw [codeUnits, if_neg (by omega), h, Nat.add_sub_cancel]

theorem exists_codeExponent {code : Nat} (h : code / 0x10000000000000 ≠ 0) :
    ∃ n, code / 0x10000000000000 = n + 1 :=
  ⟨_, (Nat.succ_pred_eq_of_ne_zero h).symm⟩

theorem codeUnits_lt {a b : Nat} (h : a < b) : codeUnits a < codeUnits b := by
  by_cases hb : b / 0x10000000000000 = 0
  · rw [codeUnits_small hb, codeUnits_small (by omega)]
    exact h
  · obtain ⟨m, hm⟩ := exists_codeExponent hb
    rw [codeUnits_large hm]
    by_cases ha : a / 0x10000000000000 = 0
    · rw [codeUnits_small ha]
      have large := Nat.le_mul_of_pos_right (0x10000000000000 + b % 0x10000000000000)
        (Nat.two_pow_pos m)
      omega
    · obtain ⟨n, hn⟩ := exists_codeExponent ha
      rw [codeUnits_large hn]
      rcases Nat.lt_or_ge n m with less | same
      · have power : 2 ^ (n + 1) ≤ 2 ^ m := Nat.pow_le_pow_right (by decide) less
        have fraction : a % 0x10000000000000 < 0x10000000000000 := Nat.mod_lt _ (by decide)
        calc (0x10000000000000 + a % 0x10000000000000) * 2 ^ n
            < (2 * 0x10000000000000) * 2 ^ n :=
              Nat.mul_lt_mul_of_pos_right (by omega) (Nat.two_pow_pos n)
          _ = 0x10000000000000 * 2 ^ (n + 1) := by ring
          _ ≤ 0x10000000000000 * 2 ^ m := Nat.mul_le_mul_left _ power
          _ ≤ (0x10000000000000 + b % 0x10000000000000) * 2 ^ m :=
              Nat.mul_le_mul_right _ (Nat.le_add_right _ _)
      · obtain rfl : n = m := by omega
        exact Nat.mul_lt_mul_of_pos_right (by omega) (Nat.two_pow_pos n)

theorem codeUnits_inj {a b : Nat} (h : codeUnits a = codeUnits b) : a = b := by
  rcases Nat.lt_trichotomy a b with less | same | greater
  · exact absurd h (Nat.ne_of_lt (codeUnits_lt less))
  · exact same
  · exact absurd h.symm (Nat.ne_of_lt (codeUnits_lt greater))

/-- A magnitude without its remainder by a power of two has a code again: its low places are zeros. -/
theorem exists_codeUnits_multiple (code k : Nat) :
    ∃ c ≤ code, codeUnits c = codeUnits code / 2 ^ k * 2 ^ k := by
  by_cases small : code / 0x10000000000000 = 0
  · have less := Nat.div_mul_le_self code (2 ^ k)
    refine ⟨code / 2 ^ k * 2 ^ k, less, ?_⟩
    rw [codeUnits_small small, codeUnits_small (by omega)]
  obtain ⟨n, hn⟩ := exists_codeExponent small
  have fraction : code % 0x10000000000000 < 0x10000000000000 := Nat.mod_lt _ (by decide)
  have parts : (n + 1) * 0x10000000000000 + code % 0x10000000000000 = code := by omega
  rw [codeUnits_large hn]
  rcases Nat.le_total k n with whole | _
  · refine ⟨code, Nat.le_refl _, ?_⟩
    rw [codeUnits_large hn, Nat.div_mul_cancel (Nat.dvd_mul_left_of_dvd (Nat.pow_dvd_pow 2 whole) _)]
  obtain ⟨b, rfl⟩ : ∃ b, k = b + n := ⟨k - n, by omega⟩
  have cut (m : Nat) : m * 2 ^ n / 2 ^ (b + n) * 2 ^ (b + n) = (m - m % 2 ^ b) * 2 ^ n := by
    rw [Nat.pow_add, Nat.mul_div_mul_right _ _ (Nat.two_pow_pos n), ← Nat.mul_assoc, Nat.div_mul_self_eq_mod_sub_self]
  rw [cut]
  rcases Nat.lt_or_ge 52 b with above | within
  · have bound : 0x20000000000000 ≤ 2 ^ b := Nat.pow_le_pow_right Nat.two_pos above
    have few : 0x10000000000000 + code % 0x10000000000000 < 2 ^ b := by omega
    rw [Nat.mod_eq_of_lt few, Nat.sub_self, Nat.zero_mul]
    exact ⟨0, Nat.zero_le _, rfl⟩
  · have places : 2 ^ b ∣ 0x10000000000000 := Nat.pow_dvd_pow 2 within
    have low : (0x10000000000000 + code % 0x10000000000000) % 2 ^ b = code % 0x10000000000000 % 2 ^ b := by
      rw [Nat.add_mod, Nat.mod_eq_zero_of_dvd places, Nat.zero_add, Nat.mod_mod]
    have less := Nat.mod_le (code % 0x10000000000000) (2 ^ b)
    rw [low]
    generalize code % 0x10000000000000 % 2 ^ b = r at less ⊢
    have exponent : (code - r) / 0x10000000000000 = n + 1 := by omega
    refine ⟨code - r, Nat.sub_le _ _, ?_⟩
    rw [codeUnits_large exponent]
    congr 1
    omega

theorem nearestEven_exact (q : Nat) {den : Nat} (h : 0 < den) : nearestEven (q * den) den = q := by
  simp [nearestEven, Nat.mul_div_cancel _ h, h]

theorem codeUnits_log2 {code : Nat} : (codeUnits code).log2 - 52 = code / 0x10000000000000 - 1 := by
  by_cases small : code / 0x10000000000000 = 0
  · rw [codeUnits_small small]
    rcases Nat.eq_zero_or_pos code with zero | positive
    · subst zero; decide
    · have bound : code.log2 < 52 := (Nat.log2_lt (by omega)).mpr (by omega)
      omega
  · obtain ⟨n, hn⟩ := exists_codeExponent small
    have fraction : code % 0x10000000000000 < 0x10000000000000 := Nat.mod_lt _ (by decide)
    have log : (codeUnits code).log2 = 52 + n := by
      have positive := Nat.two_pow_pos n
      rw [codeUnits_large hn, Nat.log2_eq_iff (Nat.ne_of_gt (Nat.mul_pos (by omega) positive))]
      constructor
      · rw [Nat.pow_add]
        exact Nat.mul_le_mul_right _ (Nat.le_add_right _ _)
      · rw [show 52 + n + 1 = 53 + n by omega, Nat.pow_add]
        exact Nat.mul_lt_mul_of_pos_right (by omega) positive
    omega

theorem magnitudeCode_exact {code den : Nat} (hc : code ≤ 0x7ff0000000000000) (h : 0 < den) :
    magnitudeCode (codeUnits code * den) den = code := by
  simp only [magnitudeCode, Nat.mul_div_cancel _ h, codeUnits_log2, Nat.pow_eq]
  by_cases small : code / 0x10000000000000 = 0
  · rw [small, codeUnits_small small, Nat.zero_sub, Nat.pow_zero, Nat.mul_one,
      nearestEven_exact code h]
    omega
  · obtain ⟨n, hn⟩ := exists_codeExponent small
    rw [codeUnits_large hn, hn, Nat.add_sub_cancel]
    have scaled : (0x10000000000000 + code % 0x10000000000000) * 2 ^ n * den =
        (0x10000000000000 + code % 0x10000000000000) * (den * 2 ^ n) := by ring
    rw [scaled, nearestEven_exact _ (Nat.mul_pos h (Nat.two_pow_pos n))]
    omega

theorem magnitudeCode_codeUnits {code : Nat} (h : code ≤ 0x7ff0000000000000) :
    magnitudeCode (codeUnits code) 1 = code := by
  have exact := magnitudeCode_exact h Nat.one_pos
  rwa [Nat.mul_one] at exact

namespace Double

/-- The code of a double without its sign place. -/
def code (d : Double) : Nat := d.bits.toNat % 0x8000000000000000

theorem code_eq (d : Double) : d.code = d.exponent * 0x10000000000000 + d.fraction := by
  unfold code exponent fraction
  omega

theorem exponent_eq (d : Double) : d.exponent = d.code / 0x10000000000000 := by
  have bound : d.fraction < 0x10000000000000 := Nat.mod_lt _ (by decide)
  rw [code_eq]
  omega

theorem units_eq (d : Double) : d.units = codeUnits d.code := by
  have bound : d.fraction < 0x10000000000000 := Nat.mod_lt _ (by decide)
  have fraction : d.fraction = d.code % 0x10000000000000 := by
    rw [code_eq]
    omega
  rw [units, codeUnits, exponent_eq, fraction]
  rfl

theorem isNaN_eq (d : Double) : d.isNaN = isNaNBits d.bits := by
  have bound := d.bits.toNat_lt
  rw [Bool.eq_iff_iff]
  simp only [isNaN, isNaNBits, Bool.and_eq_true, decide_eq_true_eq]
  unfold exponent fraction
  omega

theorem eq_nan_iff {d : Double} : d.isNaN = true ↔ d = nan := by
  constructor
  · intro h
    rw [isNaN_eq] at h
    cases d with
    | mk bits single => cases single h; rfl
  · rintro rfl
    rfl

theorem code_le {d : Double} (h : d.isNaN = false) : d.code ≤ 0x7ff0000000000000 := by
  rw [isNaN_eq, isNaNBits, decide_eq_false_iff_not] at h
  exact Nat.not_lt.mp h

theorem bits_eq (d : Double) :
    d.bits.toNat = (if d.isNegative then 0x8000000000000000 else 0) + d.code := by
  have bound := d.bits.toNat_lt
  unfold isNegative code
  by_cases sign : 0x8000000000000000 ≤ d.bits.toNat
  · rw [if_pos (by simpa using sign)]
    omega
  · rw [if_neg (by simpa using sign)]
    omega

theorem ofBits_bits (d : Double) : ofBits d.bits = d := by
  unfold ofBits
  split
  · next h => exact (eq_nan_iff.mp (d.isNaN_eq.trans h)).symm
  · rfl

theorem eq_of_code {a b : Double} (sign : a.isNegative = b.isNegative) (same : a.code = b.code) :
    a = b := by
  rw [← ofBits_bits a, ← ofBits_bits b]
  congr 1
  rw [← UInt64.toNat_inj, bits_eq, bits_eq, sign, same]

theorem eq_of_units {a b : Double} (sign : a.isNegative = b.isNegative) (same : a.units = b.units) :
    a = b := by
  rw [units_eq, units_eq] at same
  exact eq_of_code sign (codeUnits_inj same)

theorem ofRatio_exact {d : Double} {den : Nat} (h : d.isNaN = false) (positive : 0 < den) :
    ofRatio d.isNegative (d.units * den) den = d := by
  rw [ofRatio, units_eq, magnitudeCode_exact (code_le h) positive, ← bits_eq, UInt64.ofNat_toNat,
    ofBits_bits]

end Double
end DocQuery
