import DocQuery.Proofs.Machine.Operations
import DocQuery.Proofs.Number.Integers
import DocQuery.Proofs.Number.Rational
import DocQuery.Proofs.Number.Signs

/-! How the machine compares integers with doubles: it cuts the fraction off the double, casts what is left to a word
and looks at the sign of what it cut off. None of these steps rounds where it is taken, nor does the cast meet an end of
its range, so that the comparison is that of what the two denote. -/
namespace DocQuery

namespace Double

variable {a b d : Double} {code : Nat}

section Codes

theorem isFinite_iff : d.isFinite ↔ d.code < 0x7ff0000000000000 := by
  have bound : d.code < 0x8000000000000000 := Nat.mod_lt _ (by decide)
  rw [isFinite, decide_eq_true_eq, exponent_eq]
  omega

theorem isNaN_of_isFinite (h : d.isFinite) : d.isNaN = false := by
  rw [isFinite, decide_eq_true_eq] at h
  simp [isNaN, h]

theorem isInfinite_of_isFinite (h : d.isFinite) : d.isInfinite = false := by
  rw [isFinite, decide_eq_true_eq] at h
  simp [isInfinite, h]

/-- A magnitude that has a code is not rounded. -/
theorem code_ofRatio_exact (h : code ≤ 0x7ff0000000000000) (negative : Bool) :
    (ofRatio negative (codeUnits code) 1).code = code := by
  rw [code_ofRatio, magnitudeCode_codeUnits h]

theorem withSign_eq (number : d.isNaN = false) (negative : Bool) :
    d.withSign negative = ofRatio negative (codeUnits d.code) 1 := by
  rw [withSign, if_neg (by simp [number]), ofRatio, magnitudeCode_codeUnits (code_le number)]
  rfl

theorem code_neg (number : d.isNaN = false) : d.neg.code = d.code := by
  rw [neg, withSign_eq number, code_ofRatio_exact (code_le number)]

theorem scaled_neg (number : d.isNaN = false) : d.neg.scaled = -d.scaled := by
  have sign : d.neg.isNegative = !d.isNegative := by rw [neg, withSign_eq number, isNegative_ofRatio]
  have units : d.neg.units = d.units := by rw [units_eq, code_neg number, units_eq]
  rw [scaled, scaled, sign, units]
  cases d.isNegative <;> simp

end Codes

section Truncation

/-- A number without its fraction. It keeps its sign, also where nothing is left. -/
def trunc (d : Double) : Double :=
  if d.isFinite then ofRatio d.isNegative (d.units / unitsPerOne * unitsPerOne) 1 else d

theorem exists_unitsPerOne_pow : ∃ n, unitsPerOne = 2 ^ n := by
  unfold unitsPerOne
  generalize 1074 = n
  exact ⟨n, Nat.pow_eq⟩

theorem whole_eq (d : Double) :
    d.whole = if d.isNegative then -((d.units / unitsPerOne : Nat) : Int) else (d.units / unitsPerOne : Nat) := by
  rw [whole, scaled]
  cases d.isNegative with
  | true => rw [if_pos rfl, if_pos rfl, Int.neg_tdiv, Int.ofNat_tdiv]
  | false => rfl

/-- Cutting off the fraction is exact. -/
theorem trunc_exact (finite : d.isFinite) : d.trunc.isFinite ∧ d.trunc.scaled = d.whole * unitsPerOne := by
  obtain ⟨n, power⟩ := exists_unitsPerOne_pow
  obtain ⟨c, le, cut⟩ := exists_codeUnits_multiple d.code n
  have bound := isFinite_iff.mp finite
  have result : d.trunc = ofRatio d.isNegative (codeUnits c) 1 := by
    rw [trunc, if_pos finite, units_eq, power, cut]
  have code : d.trunc.code = c := by
    rw [result]
    exact code_ofRatio_exact (by omega) _
  have sign : d.trunc.isNegative = d.isNegative := by rw [result, isNegative_ofRatio]
  have units : d.trunc.units = d.units / unitsPerOne * unitsPerOne := by rw [units_eq, code, cut, ← power, ← units_eq]
  constructor
  · exact isFinite_iff.mpr (by omega)
  · rw [scaled, sign, units, whole_eq, Int.natCast_mul]
    cases d.isNegative with
    | true => rw [if_pos rfl, if_pos rfl, Int.neg_mul]
    | false => rw [if_neg Bool.false_ne_true, if_neg Bool.false_ne_true]

theorem isWhole_trunc (finite : d.isFinite) : d.trunc.isWhole ∧ d.trunc.whole = d.whole := by
  obtain ⟨stays, exact⟩ := trunc_exact finite
  obtain ⟨same, nothing⟩ := whole_of_scaled exact
  exact ⟨by simp [isWhole, stays, nothing], same⟩

/-- What is left of a number has the sign of its comparison with its whole part. -/
theorem compare_remainder (d : Double) :
    compare d.scaled (d.whole * unitsPerOne) = (compare 0 d.wholeRemainder).swap := by
  have parts : d.whole * unitsPerOne + d.wholeRemainder = d.scaled := by
    rw [Int.mul_comm]
    exact Int.mul_tdiv_add_tmod _ _
  rw [Int.compare_swap]
  rcases lt_trichotomy d.wholeRemainder 0 with less | none | greater
  · rw [Int.compare_eq_lt.mpr less, Int.compare_eq_lt.mpr (by omega)]
  · rw [Int.compare_eq_eq.mpr none, Int.compare_eq_eq.mpr (by omega)]
  · rw [Int.compare_eq_gt.mpr greater, Int.compare_eq_gt.mpr (by omega)]

end Truncation

section Differences

theorem compare?_zero_ofRatio {num : Nat} (positive : 0 < num) (negative : Bool) :
    (ofRatio negative num 1).compare? zero = some (if negative then .lt else .gt) := by
  have zeros : zero.isNaN = false ∧ zero.scaled = 0 := by decide
  have nonzero : (ofRatio negative num 1).isZero = false := isZero_ofRatio positive
  rw [isZero, decide_eq_false_iff_not] at nonzero
  rw [compare?, isNaN_ofRatio, zeros.1, zeros.2, scaled, isNegative_ofRatio]
  cases negative with
  | true => exact congrArg some (Int.compare_eq_lt.mpr (by simp; omega))
  | false => exact congrArg some (Int.compare_eq_gt.mpr (by simp; omega))

/-- A difference has the right sign however it is rounded. -/
theorem compare?_sub_zero (ha : a.isFinite) (hb : b.isFinite) :
    (a.sub b).compare? zero = some (compare a.scaled b.scaled) := by
  have number := isNaN_of_isFinite hb
  have hn : b.neg.isFinite := isFinite_iff.mpr (code_neg number ▸ isFinite_iff.mp hb)
  have difference : a.sub b = if a.scaled - b.scaled = 0 then signedZero (a.isNegative && b.neg.isNegative)
      else ofRatio (a.scaled - b.scaled < 0) (a.scaled - b.scaled).natAbs 1 := by
    simp only [sub, add, isNaN_of_isFinite ha, isNaN_of_isFinite hn, isInfinite_of_isFinite ha,
      isInfinite_of_isFinite hn, scaled_neg number, Bool.or_self, Bool.false_eq_true, if_false, ← Int.sub_eq_add_neg]
  rw [difference]
  rcases lt_trichotomy a.scaled b.scaled with less | same | greater
  · rw [if_neg (by omega), compare?_zero_ofRatio (by omega), Int.compare_eq_lt.mpr less, if_pos (by simpa using less)]
  · rw [if_pos (by omega), Int.compare_eq_eq.mpr same]
    cases (a.isNegative && b.neg.isNegative) <;> decide
  · rw [if_neg (by omega), compare?_zero_ofRatio (by omega), Int.compare_eq_gt.mpr greater, if_neg (by simp; omega)]

end Differences

section Range

theorem isFinite_of_scaled (number : d.isNaN = false) (low : (-0x8000000000000000 : Int) * unitsPerOne ≤ d.scaled)
    (high : d.scaled < (0x8000000000000000 : Int) * unitsPerOne) : d.isFinite := by
  by_contra unbounded
  have infinite : d.isInfinite := by
    rw [isFinite, decide_eq_true_eq, not_not] at unbounded
    simpa [isNaN, isInfinite, unbounded] using number
  have beyond := infinite_beyond infinite
  rw [scaled] at low high
  cases sign : d.isNegative <;> simp only [sign, if_true, if_false, Bool.false_eq_true] at low high <;> omega

theorem inInt64_whole (low : (-0x8000000000000000 : Int) * unitsPerOne ≤ d.scaled)
    (high : d.scaled < (0x8000000000000000 : Int) * unitsPerOne) : InInt64 d.whole := by
  rw [scaled] at low high
  rw [InInt64, whole_eq]
  cases sign : d.isNegative with
  | true =>
    rw [sign, if_pos rfl] at low
    have most : d.units / unitsPerOne ≤ 0x8000000000000000 := Nat.div_le_of_le_mul (by omega)
    generalize d.units / unitsPerOne = q at most ⊢
    rw [if_pos rfl]
    omega
  | false =>
    rw [sign, if_neg Bool.false_ne_true] at high
    have most : d.units / unitsPerOne < 0x8000000000000000 := Nat.div_lt_of_lt_mul (by omega)
    generalize d.units / unitsPerOne = q at most ⊢
    rw [if_neg Bool.false_ne_true]
    omega

end Range
end Double

namespace Machine

section Comparison

def twoPow63 : Double := .ofBits 0x43e0000000000000

/-- The word nearest to a number without its fraction, and zero for NaN. -/
def toSigned (d : Double) : Int := if d.isNaN then 0 else saturate d.whole

/-- Compares an integer with a number. The cast is used on whole numbers in the range of words only. -/
def compareIntDouble (cast : Double → Int) (i : Int64) (d : Double) : Ordering :=
  if (d.compare? twoPow63).any (·.isGE) then .lt
  else if d.compare? twoPow63.neg = some .lt then .gt
  else
    let whole := d.trunc
    match compare i.toInt (cast whole) with
    | .eq =>
      let rest := d.sub whole
      if rest.compare? .zero = some .gt then .lt
      else if rest.compare? .zero = some .lt then .gt
      else .eq
    | order => order

/-- Whole numbers in the range of words are cast to themselves. -/
def CastsWords (cast : Double → Int) : Prop := ∀ d : Double, d.isWhole → InInt64 d.whole → cast d = d.whole

theorem castsWords_whole : CastsWords Double.whole := fun _ _ _ => rfl

theorem castsWords_toSigned : CastsWords toSigned := by
  intro d whole range
  have finite : d.isFinite := by
    rw [Double.isWhole, Bool.and_eq_true] at whole
    exact whole.1
  rw [toSigned, Double.isNaN_of_isFinite finite, if_neg Bool.false_ne_true, saturate]
  unfold InInt64 at range
  omega

variable {cast : Double → Int} {d : Double}

theorem twoPow63_ends : twoPow63.isNaN = false ∧ twoPow63.neg.isNaN = false ∧
    twoPow63.scaled = (0x8000000000000000 : Int) * Double.unitsPerOne ∧
    twoPow63.neg.scaled = (-0x8000000000000000 : Int) * Double.unitsPerOne := by decide +kernel

theorem above_words_iff (number : d.isNaN = false) :
    (d.compare? twoPow63).any (·.isGE) ↔ (0x8000000000000000 : Int) * Double.unitsPerOne ≤ d.scaled := by
  obtain ⟨upper_number, _, upper, _⟩ := twoPow63_ends
  rw [Double.compare?, number, upper_number, upper]
  exact Int.isGE_compare

theorem below_words_iff (number : d.isNaN = false) :
    d.compare? twoPow63.neg = some .lt ↔ d.scaled < (-0x8000000000000000 : Int) * Double.unitsPerOne := by
  obtain ⟨_, lower_number, _, lower⟩ := twoPow63_ends
  rw [Double.compare?, number, lower_number, lower]
  exact Option.some_inj.trans Int.compare_eq_lt

theorem compareIntDouble_eq (casts : CastsWords cast) (number : d.isNaN = false) (i : Int64) :
    compareIntDouble cast i d = DocQuery.compareIntDouble i d := by
  rw [compareIntDouble, DocQuery.compareIntDouble]
  by_cases high : (0x8000000000000000 : Int) * Double.unitsPerOne ≤ d.scaled
  · rw [if_pos high, if_pos ((above_words_iff number).mpr high)]
  rw [if_neg high, if_neg (mt (above_words_iff number).mp high)]
  by_cases low : d.scaled < (-0x8000000000000000 : Int) * Double.unitsPerOne
  · rw [if_pos low, if_pos ((below_words_iff number).mpr low)]
  rw [if_neg low, if_neg (mt (below_words_iff number).mp low)]
  -- between the two bounds everything is exact
  have finite := Double.isFinite_of_scaled number (Int.not_lt.mp low) (Int.not_le.mp high)
  have range := Double.inInt64_whole (Int.not_lt.mp low) (Int.not_le.mp high)
  obtain ⟨stays, exact⟩ := Double.trunc_exact finite
  obtain ⟨whole, same⟩ := Double.isWhole_trunc finite
  have word : cast d.trunc = d.whole := by rw [casts d.trunc whole (same ▸ range), same]
  have rest : (d.sub d.trunc).compare? .zero = some (compare 0 d.wholeRemainder).swap := by
    rw [Double.compare?_sub_zero finite stays, exact, Double.compare_remainder]
  simp only [word, rest]
  cases compare i.toInt d.whole with
  | lt | gt => rfl
  | eq => cases compare 0 d.wholeRemainder <;> rfl

/-- An integer and a number compare as what they denote do, and tie where the number is the integer. The machine finds
the same, and would find it with any cast that is right in the range of words: the ends of the range are never taken for
a number beyond them. -/
theorem integers_compared_exactly (i : Int64) (number : d.isNaN = false) :
    let integer := ExtendedRat.finite i.toInt
    let order := DocQuery.compareIntDouble i d
    (order = .lt ↔ integer < d.value) ∧ (order = .eq ↔ integer = d.value) ∧ (order = .gt ↔ d.value < integer) ∧
      compareIntDouble toSigned i d = order ∧ ∀ cast, CastsWords cast → compareIntDouble cast i d = order := by
  intro integer order
  have compares := compareIntDouble_compares i d
  exact ⟨compares.eq_lt, compares.eq_eq, compares.eq_gt, compareIntDouble_eq castsWords_toSigned number i,
    fun cast casts => compareIntDouble_eq casts number i⟩

/-- An integer between two neighbouring doubles, both ends of the range, and the least number below zero. -/
theorem integers_compared_exactly_at_ends :
    let integer (i : Int64) := ExtendedRat.finite i.toInt
    let even : Double := .ofBits 0x4340000000000000
    let least : Double := .ofBits 0x8000000000000001
    even.isNaN = false ∧ least.isNaN = false ∧ even.value < integer 9007199254740993 ∧ least.value < integer 0 ∧
      integer Int64.maxValue < twoPow63.value ∧ compareIntDouble Double.whole Int64.maxValue twoPow63 = .lt ∧
      integer Int64.minValue = twoPow63.neg.value := by
  intro integer even least
  obtain ⟨upper_number, lower_number, _⟩ := twoPow63_ends
  have numbers : even.isNaN = false ∧ least.isNaN = false := by decide
  have orders : DocQuery.compareIntDouble 9007199254740993 even = .gt ∧ DocQuery.compareIntDouble 0 least = .gt ∧
      DocQuery.compareIntDouble Int64.maxValue twoPow63 = .lt ∧
      DocQuery.compareIntDouble Int64.minValue twoPow63.neg = .eq := by decide +kernel
  obtain ⟨big, zero, last, first⟩ := orders
  obtain ⟨_, _, between, _⟩ := integers_compared_exactly 9007199254740993 numbers.1
  obtain ⟨_, _, negative, _⟩ := integers_compared_exactly 0 numbers.2
  obtain ⟨beyond, _, _, _, unbounded⟩ := integers_compared_exactly Int64.maxValue upper_number
  obtain ⟨_, ties, _⟩ := integers_compared_exactly Int64.minValue lower_number
  exact ⟨numbers.1, numbers.2, between.mp big, negative.mp zero, beyond.mp last,
    (unbounded _ castsWords_whole).trans last, ties.mp first⟩

end Comparison
end Machine
end DocQuery
