import DocQuery.Pipeline.Nearest
import DocQuery.Proofs.Number.Canonical

/-! Signs of results, and where zeros of both signs come up. Of the distances by which vectors are ranked, only dot
products come to zero with either sign. -/
namespace DocQuery

theorem magnitudeCode_le (num den : Nat) : magnitudeCode num den ≤ 0x7ff0000000000000 := Nat.min_le_right _ _

/-- A whole number of units is not rounded to zero. -/
theorem magnitudeCode_pos {num : Nat} (h : 0 < num) : 0 < magnitudeCode num 1 := by
  simp only [magnitudeCode, Nat.div_one, Nat.one_mul, Nat.pow_eq]
  cases shift : num.log2 - 52 with
  | zero =>
    have same : nearestEven num (2 ^ 0) = num := by simpa using nearestEven_exact num Nat.one_pos
    omega
  | succ n => omega

namespace Double

variable {a b d : Double} {negative : Bool}

theorem ofRatio_bits (negative : Bool) (num den : Nat) : (ofRatio negative num den).bits.toNat =
    (if negative then 0x8000000000000000 else 0) + magnitudeCode num den := by
  have bound := magnitudeCode_le num den
  have code : (UInt64.ofNat ((if negative then 0x8000000000000000 else 0) + magnitudeCode num den)).toNat =
      (if negative then 0x8000000000000000 else 0) + magnitudeCode num den := by
    rw [UInt64.toNat_ofNat']
    cases negative <;> simp only [if_true, if_false, Bool.false_eq_true] <;> omega
  have number : ¬ isNaNBits (UInt64.ofNat ((if negative then 0x8000000000000000 else 0) + magnitudeCode num den)) := by
    rw [isNaNBits, decide_eq_true_eq, code]
    cases negative <;> simp only [if_true, if_false, Bool.false_eq_true] <;> omega
  rw [ofRatio, ofBits, dif_neg number, code]

theorem isNegative_ofRatio (negative : Bool) (num den : Nat) : (ofRatio negative num den).isNegative = negative := by
  have bound := magnitudeCode_le num den
  rw [isNegative, ofRatio_bits]
  cases negative <;> simp
  omega

theorem isNaN_ofRatio (negative : Bool) (num den : Nat) : (ofRatio negative num den).isNaN = false := by
  have bound := magnitudeCode_le num den
  rw [isNaN_eq, isNaNBits, decide_eq_false_iff_not, ofRatio_bits]
  cases negative <;> simp <;> omega

theorem code_ofRatio (negative : Bool) (num den : Nat) : (ofRatio negative num den).code = magnitudeCode num den := by
  have bound := magnitudeCode_le num den
  rw [code, ofRatio_bits]
  cases negative <;> simp only [if_true, if_false, Bool.false_eq_true] <;> omega

theorem isZero_ofRatio {num : Nat} (h : 0 < num) : (ofRatio negative num 1).isZero = false := by
  have positive := magnitudeCode_pos h
  have units : codeUnits 0 < (ofRatio negative num 1).units := by
    rw [units_eq, code_ofRatio]
    exact codeUnits_lt positive
  rw [isZero, decide_eq_false_iff_not]
  exact Nat.ne_of_gt (Nat.lt_of_le_of_lt (Nat.zero_le _) units)

theorem scaled_nonneg (h : d.isNegative = false) : 0 ≤ d.scaled := by
  rw [scaled, h]
  exact Int.natCast_nonneg d.units

theorem isNegative_mul_self (d : Double) : (d.mul d).isNegative = false := by
  unfold mul
  rw [bne_self_eq_false]
  split
  · rfl
  · split
    · split <;> rfl
    · exact isNegative_ofRatio false _ _

theorem isNegative_add_exact (sum : Int) (positive : 0 ≤ sum) :
    (if sum = 0 then zero else ofRatio (sum < 0) sum.natAbs 1).isNegative = false := by
  split
  · rfl
  · rw [isNegative_ofRatio, decide_eq_false_iff_not]
    exact Int.not_lt.mpr positive

theorem isNegative_add (ha : a.isNegative = false) (hb : b.isNegative = false) : (a.add b).isNegative = false := by
  simp only [add, ha, hb, bne_self_eq_false, Bool.and_false, Bool.false_eq_true, if_false]
  split
  · rfl
  · split
    · exact ha
    · split
      · exact hb
      · exact isNegative_add_exact _ (Int.add_nonneg (scaled_nonneg ha) (scaled_nonneg hb))

theorem isNegative_negativeZero_add (hb : b.isNegative = false) : (negativeZero.add b).isNegative = false := by
  have start : negativeZero.isNaN = false ∧ negativeZero.isInfinite = false ∧ negativeZero.scaled = 0 := by decide
  unfold add
  simp only [start, hb, Bool.false_or, Bool.and_false, Bool.false_eq_true, if_false, Int.zero_add]
  split
  · rfl
  · split
    · exact hb
    · exact isNegative_add_exact _ (scaled_nonneg hb)

theorem isNegative_foldl_add {ds : List Double} (start : a.isNegative = false) (h : ∀ d ∈ ds, d.isNegative = false) :
    (ds.foldl add a).isNegative = false := by
  induction ds generalizing a with
  | nil => exact start
  | cons d ds ih =>
    rw [List.forall_mem_cons] at h
    exact ih (isNegative_add start h.1) h.2

/-- The sum of nothing is negative zero, which is lost with the first item. -/
theorem isNegative_sum {ds : List Double} (h : ∀ d ∈ ds, d.isNegative = false) :
    (sum ds).isNegative = ds.isEmpty := by
  cases ds with
  | nil => rfl
  | cons d ds =>
    rw [List.forall_mem_cons] at h
    rw [sum, List.foldl_cons]
    exact isNegative_foldl_add (isNegative_negativeZero_add h.1) h.2

theorem isNegative_sqrt (h : d.isNegative = false) : d.sqrt.isNegative = false := by
  simp only [sqrt, h, Bool.false_eq_true, if_false]
  split
  · rfl
  · split
    · exact h
    · split
      · exact h
      · exact isNegative_ofRatio false _ _

/-- The sign of a Euclidean distance depends on the dimension only. -/
theorem isNegative_euclideanDistance {as bs : List Double} (size : as.length = bs.length) :
    (euclideanDistance as bs).isNegative = bs.isEmpty := by
  cases bs with
  | nil =>
    rw [List.eq_nil_of_length_eq_zero size]
    decide
  | cons b bs =>
    obtain ⟨a, as, rfl⟩ := List.exists_cons_of_length_eq_add_one size
    refine isNegative_sqrt (isNegative_sum fun d hd => ?_)
    rw [← List.map_uncurry_zip_eq_zipWith] at hd
    obtain ⟨⟨a, b⟩, _, rfl⟩ := List.mem_map.mp hd
    exact isNegative_mul_self (a - b)

theorem isZero_of_infinite (h : d.isInfinite) : d.isZero = false := by
  simp only [isInfinite, Bool.and_eq_true, decide_eq_true_eq] at h
  have exponent : d.exponent ≠ 0 := by omega
  rw [isZero, decide_eq_false_iff_not, units, if_neg exponent, Nat.pow_eq]
  exact Nat.mul_ne_zero (by omega) (Nat.two_pow_pos _).ne'

/-- A sum with a number that is not negative is not negative zero. -/
theorem isNegative_of_isZero_add (ha : a.isNegative = false) (h : (a.add b).isZero) : (a.add b).isNegative = false := by
  generalize result : a.add b = c at h
  simp only [add, ha, Bool.false_and] at result
  split at result
  · exact result ▸ rfl
  · split at result
    · split at result
      · exact result ▸ rfl
      · exact result ▸ ha
    · split at result
      next infinite => rw [← result, isZero_of_infinite infinite] at h; contradiction
      next =>
        split at result
        · exact result ▸ rfl
        next sum =>
          rw [← result, isZero_ofRatio (Int.natAbs_pos.mpr sum)] at h
          contradiction

/-- Zeros that are told apart by nothing but their signs. -/
def OppositeZeros (d e : Double) : Prop := d.isZero ∧ e.isZero ∧ d.isNegative ≠ e.isNegative

instance : DecidableRel OppositeZeros := fun _ _ => inferInstanceAs (Decidable (_ ∧ _ ∧ _))

theorem OppositeZeros.symm (h : OppositeZeros a b) : OppositeZeros b a := ⟨h.2.1, h.1, h.2.2.symm⟩

theorem isZero_iff_scaled : d.isZero ↔ d.scaled = 0 := by
  rw [isZero, decide_eq_true_eq, ← scaled_natAbs, Int.natAbs_eq_zero]

/-- Numbers that tie are one, or zeros of opposite signs. -/
theorem eq_or_opposite (same : a.scaled = b.scaled) : a = b ∨ OppositeZeros a b := by
  by_cases zero : a.scaled = 0
  · have zeros : a.isZero ∧ b.isZero := ⟨isZero_iff_scaled.mpr zero, isZero_iff_scaled.mpr (same ▸ zero)⟩
    by_cases sign : a.isNegative = b.isNegative
    · exact .inl (eq_of_units sign ((of_decide_eq_true zeros.1).trans (of_decide_eq_true zeros.2).symm))
    · exact .inr ⟨zeros.1, zeros.2, sign⟩
  · exact .inl (eq_of_scaled same zero)

theorem signedOrder_of_opposite (h : OppositeZeros a b) :
    a.signedOrder b = compare b.isNegative.toNat a.isNegative.toNat := by
  rw [signedOrder, isZero_iff_scaled.mp h.1, isZero_iff_scaled.mp h.2.1]
  rfl

theorem eq_negativeZero (zero : d.isZero) (negative : d.isNegative) : d = negativeZero := by
  have same : d.scaled = negativeZero.scaled := (isZero_iff_scaled.mp zero).trans (by decide)
  refine (eq_or_opposite same).resolve_right fun opposite => opposite.2.2 ?_
  rw [negative]
  decide

/-- Of zeros of opposite signs the negative one comes first. -/
theorem eq_negativeZero_of_isLE (opposite : OppositeZeros a b) (le : (a.signedOrder b).isLE) : a = negativeZero := by
  refine eq_negativeZero opposite.1 ?_
  rw [signedOrder_of_opposite opposite] at le
  have signs := opposite.2.2
  cases ha : a.isNegative with
  | true => rfl
  | false =>
    cases hb : b.isNegative with
    | true =>
      rw [ha, hb] at le
      contradiction
    | false => exact absurd (ha.trans hb.symm) signs

/-- Apart from zeros of opposite signs, numbers are told apart by their values. -/
theorem compare?_eq_signedOrder (ha : a.isNaN = false) (hb : b.isNaN = false) (unlike : ¬ OppositeZeros a b) :
    a.compare? b = some (a.signedOrder b) := by
  simp only [compare?, ha, hb, Bool.or_self, Bool.false_eq_true, if_false, signedOrder]
  cases o : compare a.scaled b.scaled with
  | lt | gt => rfl
  | eq =>
    obtain rfl := (eq_or_opposite (Std.LawfulEqCmp.eq_of_compare o)).resolve_right unlike
    have self : compare a.isNegative.toNat a.isNegative.toNat = .eq := Std.ReflOrd.compare_self
    rw [self]
    rfl

instance : Std.TransCmp signedOrder :=
  inferInstanceAs (Std.TransCmp (compareLex (compareOn scaled)
    fun a b : Double => compareOn (fun d : Double => d.isNegative.toNat) b a))

end Double

/-- Only dot products tell vectors apart by the signs of zeros. -/
theorem DistanceMeasure.eq_dotProduct (m : DistanceMeasure) {as bs target : List Double} {d e : Double}
    (ha : as.length = target.length) (hb : bs.length = target.length) (hd : m.measure? as target = some d)
    (he : m.measure? bs target = some e) (opposite : d.OppositeZeros e) : m = .dotProduct := by
  obtain ⟨first, second, signs⟩ := opposite
  cases m with
  | dotProduct => rfl
  | euclidean =>
    cases hd
    cases he
    rw [Double.isNegative_euclideanDistance ha, Double.isNegative_euclideanDistance hb] at signs
    contradiction
  | cosine =>
    have positive {as : List Double} {d : Double} (hd : measure? .cosine as target = some d) (zero : d.isZero) :
        d.isNegative = false := by
      simp only [measure?, Double.cosineDistance?] at hd
      split at hd
      · contradiction
      · cases hd
        exact Double.isNegative_of_isZero_add rfl zero
    rw [positive hd first, positive he second] at signs
    contradiction

end DocQuery
