import DocQuery.Proofs.Number.Comparison
import DocQuery.Proofs.Number.DoubleText
import DocQuery.Value.Canonical

/-! Numbers have one canonical text exactly when they denote the same. -/
namespace DocQuery

namespace Double

theorem infinite_large : 0x8000000000000000 * unitsPerOne < 2 ^ 52 * 2 ^ 2046 := by decide +kernel

theorem scaled_natAbs (d : Double) : d.scaled.natAbs = d.units := by
  unfold scaled
  split <;> omega

theorem infinite_units {d : Double} (h : d.isInfinite = true) : d.units = 2 ^ 52 * 2 ^ 2046 := by
  have parts : d.exponent = 2047 ∧ d.fraction = 0 := by simpa [isInfinite] using h
  rw [units, if_neg (by omega), parts.1, parts.2]
  decide +kernel

theorem infinite_beyond {d : Double} (h : d.isInfinite = true) : (0x8000000000000000 : Int) * unitsPerOne < d.units := by
  rw [infinite_units h]
  exact_mod_cast infinite_large

/-- The range of integers, which whole doubles share. -/
def InRange (i : Int) : Prop := -0x8000000000000000 ≤ i ∧ i < 0x8000000000000000

theorem infinite_not_inRange {d : Double} (h : d.isInfinite = true) {i : Int} (range : InRange i) :
    d.scaled ≠ i * unitsPerOne := by
  intro same
  have large := infinite_large
  have magnitude : d.units = i.natAbs * unitsPerOne := by
    rw [← scaled_natAbs, same, Int.natAbs_mul, Int.natAbs_natCast]
  rw [← infinite_units h, magnitude] at large
  have beyond := Nat.lt_of_mul_lt_mul_right large
  unfold InRange at range
  omega

theorem whole_of_scaled {d : Double} {i : Int} (h : d.scaled = i * unitsPerOne) :
    d.whole = i ∧ d.wholeRemainder = 0 := by
  have positive := unitsPerOne_pos
  unfold whole wholeRemainder
  rw [h]
  exact ⟨Int.mul_tdiv_cancel _ (Int.ne_of_gt positive), Int.mul_tmod_left _ _⟩

theorem scaled_of_isWhole {d : Double} (h : d.isWhole = true) : d.scaled = d.whole * unitsPerOne := by
  have remainder : d.wholeRemainder = 0 := by
    simp only [isWhole, Bool.and_eq_true, decide_eq_true_eq] at h
    exact h.2
  have parts : unitsPerOne * d.whole + d.wholeRemainder = d.scaled := Int.mul_tdiv_add_tmod _ _
  rw [remainder, Int.add_zero] at parts
  rw [← parts, Int.mul_comm]

theorem eq_of_scaled {d e : Double} (h : d.scaled = e.scaled) (nonzero : d.scaled ≠ 0) : d = e := by
  have units : d.units = e.units := by
    rw [← scaled_natAbs, h, scaled_natAbs]
  refine eq_of_units ?_ units
  unfold scaled at h nonzero
  cases hd : d.isNegative <;> cases he : e.isNegative <;> simp only [hd, he] at h nonzero ⊢ <;>
    simp at h nonzero <;> omega

end Double

namespace Number

def canonical : Number → String
  | integer i => toString i.toInt
  | double d => d.canonical

theorem canonical_cases (n : Number) :
    (∃ i, Double.InRange i ∧ n.canonical = toString i ∧
      n.denoted? = some (i * Double.unitsPerOne)) ∨
    (n.canonical = Double.nan.text ∧ n.denoted? = none) ∨
    ∃ d : Double, d.isNaN = false ∧ n.canonical = d.text ∧ n.denoted? = some d.scaled ∧
      ∀ i, Double.InRange i → d.scaled ≠ i * Double.unitsPerOne := by
  cases n with
  | integer i => exact .inl ⟨i.toInt, ⟨i.le_toInt, i.toInt_lt⟩, rfl, rfl⟩
  | double d =>
    simp only [canonical, Double.canonical, denoted?]
    by_cases nan : d.isNaN = true
    · rw [if_pos nan, if_pos nan]
      exact .inr (.inl ⟨rfl, rfl⟩)
    rw [if_neg nan, if_neg nan]
    by_cases whole : d.isWhole = true ∧ -0x8000000000000000 ≤ d.whole ∧ d.whole < 0x8000000000000000
    · rw [if_pos whole, Double.scaled_of_isWhole whole.1]
      exact .inl ⟨d.whole, whole.2, rfl, rfl⟩
    rw [if_neg whole]
    refine .inr (.inr ⟨d, by simpa using nan, rfl, rfl, fun i range same => ?_⟩)
    by_cases infinite : d.isInfinite = true
    · exact Double.infinite_not_inRange infinite range same
    obtain ⟨value, remainder⟩ := Double.whole_of_scaled same
    have finite : d.isFinite = true := by
      simp only [Double.isInfinite, Double.isNaN, Double.isFinite, Bool.and_eq_true,
        decide_eq_true_eq] at *
      omega
    refine whole ⟨?_, value ▸ range⟩
    simp [Double.isWhole, finite, remainder]

theorem toString_int_ne_text {i : Int} {d : Double} (number : d.isNaN = false) :
    toString i ≠ d.text := by
  intro same
  obtain ⟨c, hc, other, unsigned⟩ := Double.text_marked number
  rcases toString_int_plain (same ▸ hc) with digit | sign
  · exact absurd digit (by simp [other])
  · exact unsigned sign

theorem toString_int_ne_nan (i : Int) : toString i ≠ Double.nan.text := by
  intro same
  have member : 'N' ∈ (toString i).toList := by
    rw [same]
    decide
  exact absurd (toString_int_plain member) (by decide)

theorem text_ne_nan {d : Double} (number : d.isNaN = false) : d.text ≠ Double.nan.text := by
  intro same
  rw [Double.text_inj same] at number
  exact absurd number (by decide)

theorem denoted?_of_canonical {m n : Number} (h : m.canonical = n.canonical) :
    m.denoted? = n.denoted? := by
  rcases canonical_cases m with ⟨i, _, mt, md⟩ | ⟨mt, md⟩ | ⟨d, hd, mt, md, _⟩ <;>
    rcases canonical_cases n with ⟨j, _, nt, nd⟩ | ⟨nt, nd⟩ | ⟨e, he, nt, nd, _⟩ <;>
    rw [mt, nt] at h <;> rw [md, nd]
  · rw [toString_int_inj h]
  · exact absurd h (toString_int_ne_nan i)
  · exact absurd h (toString_int_ne_text he)
  · exact absurd h.symm (toString_int_ne_nan j)
  · exact absurd h.symm (text_ne_nan he)
  · exact absurd h.symm (toString_int_ne_text hd)
  · exact absurd h (text_ne_nan hd)
  · rw [Double.text_inj h]

theorem canonical_of_denoted? {m n : Number} (h : m.denoted? = n.denoted?) :
    m.canonical = n.canonical := by
  have zero : Double.InRange 0 := ⟨by decide, by decide⟩
  rcases canonical_cases m with ⟨i, hi, mt, md⟩ | ⟨mt, md⟩ | ⟨d, hd, mt, md, out⟩ <;>
    rcases canonical_cases n with ⟨j, hj, nt, nd⟩ | ⟨nt, nd⟩ | ⟨e, he, nt, nd, out'⟩ <;>
    rw [md, nd] at h <;> rw [mt, nt]
  · rw [Int.eq_of_mul_eq_mul_right (Int.ne_of_gt unitsPerOne_pos) (Option.some.inj h)]
  · contradiction
  · exact absurd (Option.some.inj h).symm (out' i hi)
  · contradiction
  · contradiction
  · exact absurd (Option.some.inj h) (out j hj)
  · contradiction
  · have nonzero : d.scaled ≠ 0 := (out 0 zero).trans_eq (Int.zero_mul _)
    rw [Double.eq_of_scaled (Option.some.inj h) nonzero]

theorem order_eq_iff_canonical {m n : Number} : m.order n = .eq ↔ m.canonical = n.canonical := by
  rw [order_eq, Std.LawfulEqCmp.compare_eq_iff_eq]
  exact ⟨canonical_of_denoted?, denoted?_of_canonical⟩

theorem canonical_numeral (n : Number) : ∀ c ∈ n.canonical.toList, isNumeral c = true := by
  rcases canonical_cases n with ⟨i, _, nt, _⟩ | ⟨nt, _⟩ | ⟨d, _, nt, _⟩ <;> rw [nt]
  · exact toString_int_numeral
  · exact Double.text_numeral _
  · exact Double.text_numeral _

theorem canonical_starts (n : Number) :
    ∃ c cs, n.canonical.toList = c :: cs ∧ startsNumber c = true := by
  rcases canonical_cases n with ⟨i, _, nt, _⟩ | ⟨nt, _⟩ | ⟨d, _, nt, _⟩ <;> rw [nt]
  · exact toString_int_starts i
  · exact Double.text_starts _
  · exact Double.text_starts _

end Number
end DocQuery
