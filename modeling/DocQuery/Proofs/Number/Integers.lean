import Mathlib.Algebra.Group.Int.Defs
import DocQuery.Eval.Arithmetic

/-! Integers of 64 bits, and the check that an exact result is one of them. -/
namespace DocQuery

def InInt64 (i : Int) : Prop := -2 ^ 63 ≤ i ∧ i < 2 ^ 63

variable {k : Int64} {n : Int}

theorem toInt_inInt64 (i : Int64) : InInt64 i.toInt := ⟨i.le_toInt, i.toInt_lt⟩

theorem toInt_of_checkedInt (h : checkedInt n = some k) : k.toInt = n := by
  unfold checkedInt at h
  split at h
  next fits =>
    cases h
    exact Int64.toInt_ofInt_of_le fits.1 fits.2
  next => contradiction

theorem not_inInt64_of_checkedInt (h : checkedInt n = none) : ¬ InInt64 n := by
  intro fits
  unfold checkedInt at h
  split at h
  next => contradiction
  next leaves => exact leaves fits

end DocQuery
