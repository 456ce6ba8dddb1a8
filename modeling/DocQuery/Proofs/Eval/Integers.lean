import Mathlib.Algebra.BigOperators.Group.List.Basic
import DocQuery.Proofs.Eval.Evaluate
import DocQuery.Proofs.Number.Integers
import DocQuery.Regex.Library

/-! Arithmetic on integers alone. Results are exact or errors: nothing wraps, and a total of several operands fails at
the first sum or product on the way that leaves 64 bits. -/
namespace DocQuery

namespace Outcome

def IsInteger (o : Outcome) (i : Int) : Prop := ∃ n : Int64, o = .value (.integer n) ∧ n.toInt = i

/-- The outcome of an operation is an integer where that fits, and only there; elsewhere it is an overflow. -/
def ExactWhere (o : Outcome) (op : Arithmetic) (fits : Prop) (i : Int) : Prop :=
  (o.IsInteger i ↔ fits) ∧ (¬ fits → o = .error (.overflow (.arithmetic op)))

end Outcome

section Quotients

/-- A quotient without its fraction, and what it leaves: less than the divisor, and of the sign of the dividend. -/
structure Truncates (l r q m : Int) : Prop where
  split : l = q * r + m
  small : |m| < |r|
  sign : m = 0 ∨ m.sign = l.sign

theorem truncates_tdiv (l : Int) {r : Int} (nonzero : r ≠ 0) : Truncates l r (l.tdiv r) (l.tmod r) where
  split := by
    rw [mul_comm]
    exact (Int.mul_tdiv_add_tmod l r).symm
  small := by
    rw [Int.abs_eq_natAbs, Int.abs_eq_natAbs, Int.natAbs_tmod]
    exact Int.ofNat_lt.mpr (Nat.mod_lt _ (Int.natAbs_pos.mpr nonzero))
  sign := by
    have sign := Int.sign_tmod l r
    split at sign
    · exact .inl (Int.sign_eq_zero_iff_zero.mp sign)
    · exact .inr sign

/-- Only the negation of the least integer leaves 64 bits. -/
theorem inInt64_tdiv_iff {l r : Int} (hl : InInt64 l) : InInt64 (l.tdiv r) ↔ ¬ (l = -2 ^ 63 ∧ r = -1) := by
  constructor
  · rintro fits ⟨rfl, rfl⟩
    exact absurd fits.2 (by decide)
  · intro other
    obtain ⟨low, high⟩ := hl
    have size : (l.tdiv r).natAbs = l.natAbs / r.natAbs := Int.natAbs_tdiv l r
    rcases (by omega : r = -1 ∨ r = 1 ∨ r.natAbs = 0 ∨ 2 ≤ r.natAbs) with rfl | rfl | zero | large
    · rw [Int.tdiv_neg, Int.tdiv_one]
      exact ⟨by omega, by omega⟩
    · rw [Int.tdiv_one]
      exact ⟨low, high⟩
    · rw [zero, Nat.div_zero] at size
      exact ⟨by omega, by omega⟩
    · have half : l.natAbs / r.natAbs ≤ l.natAbs / 2 := Nat.div_le_div_left large Nat.two_pos
      exact ⟨by omega, by omega⟩

end Quotients

section Totals

/-- A total of integers from the left has 64 bits all the way. -/
def FitsThroughout (total : List Int → Int) (is : List Int) : Prop :=
  ∀ front, front <+: is → InInt64 (total front)

variable {total : List Int → Int} {seen : List Int} {i : Int}

theorem FitsThroughout.concat (fits : FitsThroughout total seen) (next : InInt64 (total (seen ++ [i]))) :
    FitsThroughout total (seen ++ [i]) := by
  intro front part
  rcases List.prefix_concat_iff.mp part with rfl | part
  · exact next
  · exact fits front part

end Totals

namespace Arithmetic

/-- The integer that an operation comes to where there is no bound. -/
def exact : Arithmetic → Int → Int → Int
  | add, a, b => a + b
  | subtract, a, b => a - b
  | multiply, a, b => a * b
  | divide, a, b => a.tdiv b
  | mod, a, b => a.tmod b

/-- The two ends of a computation on integers: exact if nothing leaves 64 bits, and else an error. -/
inductive Ends (op : Arithmetic) (fits : Prop) (i : Int) : Except EvalError Number → Prop
  | exactly (n : Int64) : fits → n.toInt = i → Ends op fits i (.ok (.integer n))
  | overflows : ¬ fits → Ends op fits i (.error (.overflow (.arithmetic op)))

/-- An operation that takes in one integer after another, with the total that it comes to. -/
structure Takes (op : Arithmetic) (total : List Int → Int) : Prop where
  folds : op = add ∨ op = multiply
  nil : InInt64 (total [])
  single : ∀ i, total [i] = i
  concat : ∀ is i, total (is ++ [i]) = op.exact (total is) i

theorem takes_sum : Takes add List.sum := ⟨.inl rfl, by simp [InInt64], by simp, by simp [exact]⟩

theorem takes_prod : Takes multiply List.prod := ⟨.inr rfl, by simp [InInt64], by simp, by simp [exact]⟩

variable {op : Arithmetic} {total : List Int → Int} {a b : Int64}

theorem Ends.exactWhere {fits : Prop} {i : Int} {x : Except EvalError Number} (ends : Ends op fits i x) :
    (Outcome.ofExcept (x.map Number.toValue)).ExactWhere op fits i := by
  cases ends with
  | exactly n fits exact => exact ⟨iff_of_true ⟨n, rfl, exact⟩ fits, absurd fits⟩
  | overflows leaves => exact ⟨iff_of_false nofun leaves, fun _ => rfl⟩

theorem numbers_ends (op : Arithmetic) (a : Int64) (defined : b.toInt ≠ 0 ∨ op ≠ divide ∧ op ≠ mod) :
    Ends op (InInt64 (op.exact a.toInt b.toInt)) (op.exact a.toInt b.toInt)
      (op.numbers (.integer a) (.integer b)) := by
  have checked : op.integers a b =
      (checkedInt (op.exact a.toInt b.toInt)).elim (.error (.overflow (.arithmetic op))) .ok := by
    cases op with
    | add | subtract | multiply =>
      simp only [integers, exact]
      cases checkedInt _ <;> rfl
    | divide | mod =>
      have nonzero : b.toInt ≠ 0 := by simpa using defined
      simp only [integers, exact, if_neg nonzero]
      cases checkedInt _ <;> rfl
  rw [numbers, checked]
  cases fits : checkedInt (op.exact a.toInt b.toInt) with
  | some n =>
    have exact := toInt_of_checkedInt fits
    exact .exactly n (exact ▸ toInt_inInt64 n) exact
  | none => exact .overflows (not_inInt64_of_checkedInt fits)

/-- The next integer leads to the next total or out of 64 bits, and what comes behind does not bring it back. -/
theorem foldFrom_ends (takes : Takes op total) {seen : List Int} (fits : FitsThroughout total seen) {t : Int64}
    (so_far : t.toInt = total seen) (rest : List Int64) :
    let is := seen ++ rest.map Int64.toInt
    Ends op (FitsThroughout total is) (total is)
      (op.foldFrom (.integer t) (rest.map fun i => .value (.integer i))) := by
  induction rest generalizing seen t with
  | nil =>
    rw [List.map_nil, List.append_nil]
    exact .exactly t fits so_far
  | cons i rest ih =>
    have step : op.foldFrom (.integer t) ((i :: rest).map fun i => .value (.integer i)) =
        (op.numbers (.integer t) (.integer i) >>= fun n =>
          op.foldFrom n (rest.map fun i => .value (.integer i))) := rfl
    have defined : i.toInt ≠ 0 ∨ op ≠ divide ∧ op ≠ mod := by
      rcases takes.folds with rfl | rfl <;> simp
    have next := numbers_ends op t defined
    rw [so_far, ← takes.concat] at next
    rw [step, List.map_cons, ← List.singleton_append, ← List.append_assoc]
    generalize op.numbers (.integer t) (.integer i) = x at next
    cases next with
    | exactly n next exact => exact ih (fits.concat next) exact
    | overflows leaves => exact .overflows fun throughout => leaves (throughout _ (List.prefix_append _ _))

theorem fold_ends (takes : Takes op total) {is : List Int64} (some : is ≠ []) :
    Ends op (FitsThroughout total (is.map Int64.toInt)) (total (is.map Int64.toInt))
      (op.fold (is.map fun i => .value (.integer i))) := by
  obtain ⟨first, rest, rfl⟩ := List.exists_cons_of_ne_nil some
  have empty : FitsThroughout total [] := fun front part => List.prefix_nil.mp part ▸ takes.nil
  have one : InInt64 (total ([] ++ [first.toInt])) := (takes.single _).symm ▸ toInt_inInt64 first
  exact foldFrom_ends takes (empty.concat one) (takes.single _).symm rest

theorem apply_total (takes : Takes op total) {is : List Int64} (some : is ≠ []) :
    (op.apply (is.map fun i => .value (.integer i))).ExactWhere op (FitsThroughout total (is.map Int64.toInt))
      (total (is.map Int64.toInt)) := by
  have folds (args : List Outcome) : op.apply args = .ofExcept ((op.fold args).map Number.toValue) := by
    rcases takes.folds with rfl | rfl <;> rfl
  rw [folds]
  exact (fold_ends takes some).exactWhere

theorem apply_pair (binary : op ≠ add ∧ op ≠ multiply) (a b : Int64) :
    op.apply [.value (.integer a), .value (.integer b)] =
      .ofExcept ((op.numbers (.integer a) (.integer b)).map Number.toValue) := by
  cases op with
  | add | multiply => simp at binary
  | subtract | divide | mod => rfl

theorem apply_difference (a b : Int64) : (subtract.apply [.value (.integer a), .value (.integer b)]).ExactWhere
    subtract (InInt64 (a.toInt - b.toInt)) (a.toInt - b.toInt) := by
  rw [apply_pair (by simp)]
  exact (numbers_ends subtract a (by simp)).exactWhere

theorem apply_by_zero (a : Int64) (divides : op = divide ∨ op = mod) :
    op.apply [.value (.integer a), .value (.integer 0)] = .error (.divisionByZero (.arithmetic op)) := by
  rcases divides with rfl | rfl <;> rfl

theorem apply_quotient (a : Int64) {b : Int64} (nonzero : b.toInt ≠ 0) :
    (divide.apply [.value (.integer a), .value (.integer b)]).ExactWhere divide
      (¬ (a.toInt = -2 ^ 63 ∧ b.toInt = -1)) (a.toInt.tdiv b.toInt) := by
  have ends : (divide.apply [.value (.integer a), .value (.integer b)]).ExactWhere divide
      (InInt64 (a.toInt.tdiv b.toInt)) (a.toInt.tdiv b.toInt) := by
    rw [apply_pair (by simp)]
    exact (numbers_ends divide a (.inl nonzero)).exactWhere
  rwa [inInt64_tdiv_iff (toInt_inInt64 a)] at ends

theorem apply_remainder (a : Int64) {b : Int64} (nonzero : b.toInt ≠ 0) :
    (mod.apply [.value (.integer a), .value (.integer b)]).IsInteger (a.toInt.tmod b.toInt) := by
  have small : InInt64 (a.toInt.tmod b.toInt) := Int64.toInt_mod a b ▸ toInt_inInt64 (a % b)
  rw [apply_pair (by simp)]
  exact (numbers_ends mod a (.inl nonzero)).exactWhere.1.mpr small

end Arithmetic

section Calls

variable {rules : RegexRules} {row : Row} {args : List Expr} {is : List Int64}

theorem evaluate_arithmetic (integers : args.map (evaluate rules row) = is.map fun i => .value (.integer i))
    (op : Arithmetic) (admitted : (Builtin.arithmetic op).arity.admits is.length) :
    evaluate rules row (.call (.arithmetic op) args) = op.apply (is.map fun i => .value (.integer i)) := by
  rw [evaluate, evaluateAll_eq_map, integers, Builtin.apply, List.length_map, if_pos admitted]
  rfl

/-- Arithmetic on integers is exact or fails. Sums and products fail at the first one on the way that leaves 64 bits,
quotients for zero and where the least integer is divided by -1, and remainders for zero only. -/
theorem integer_arithmetic_exact (rules : RegexRules) (row : Row)
    (integers : args.map (evaluate rules row) = is.map fun i => .value (.integer i)) :
    let result (op : Arithmetic) := evaluate rules row (.call (.arithmetic op) args)
    let byZero (op : Arithmetic) := result op = .error (.divisionByZero (.arithmetic op))
    (2 ≤ is.length →
      let is := is.map Int64.toInt
      (result .add).ExactWhere .add (FitsThroughout List.sum is) is.sum ∧
        (result .multiply).ExactWhere .multiply (FitsThroughout List.prod is) is.prod) ∧
      ∀ l r, is = [l, r] →
        let leaves := l.toInt = -2 ^ 63 ∧ r.toInt = -1
        (result .subtract).ExactWhere .subtract (InInt64 (l.toInt - r.toInt)) (l.toInt - r.toInt) ∧
          (r = 0 → byZero .divide ∧ byZero .mod) ∧
          (r ≠ 0 → ∃ q m, Truncates l.toInt r.toInt q m ∧ (result .divide).ExactWhere .divide (¬ leaves) q ∧
            (result .mod).IsInteger m ∧ (leaves → m = 0)) := by
  intro result byZero
  have read := evaluate_arithmetic integers
  constructor
  · intro several
    have some : is ≠ [] := List.ne_nil_of_length_pos (by omega)
    have admitted : decide (2 ≤ is.length) = true := decide_eq_true several
    simp only [result, read .add admitted, read .multiply admitted]
    exact ⟨Arithmetic.apply_total Arithmetic.takes_sum some, Arithmetic.apply_total Arithmetic.takes_prod some⟩
  · rintro l r rfl leaves
    simp only [byZero, result, read .subtract rfl, read .divide rfl, read .mod rfl]
    refine ⟨Arithmetic.apply_difference l r, ?_, fun nonzero => ?_⟩
    · rintro rfl
      exact ⟨Arithmetic.apply_by_zero l (.inl rfl), Arithmetic.apply_by_zero l (.inr rfl)⟩
    · replace nonzero : r.toInt ≠ 0 := fun zero => nonzero (Int64.toInt_inj.mp zero)
      refine ⟨_, _, truncates_tdiv l.toInt nonzero, Arithmetic.apply_quotient l nonzero,
        Arithmetic.apply_remainder l nonzero, ?_⟩
      rintro ⟨_, minus_one⟩
      rw [minus_one, Int.tmod_neg, Int.tmod_one]

/-- At the least integer: its quotient by -1 is out of range, the remainder is not, and a sum that leaves the range
does not come back. -/
theorem integer_arithmetic_exact_at_least_integer :
    let row : Row := .ofFields [("n", .integer Int64.minValue)]
    let args : List Expr := [.field ⟨["n"]⟩, .constant (.integer (-1))]
    let more := args ++ [.constant (.integer 1)]
    let least := Int64.minValue.toInt
    args.map (evaluate 100 row) = [Int64.minValue, -1].map (fun i => .value (.integer i)) ∧
      evaluate 100 row (.call (.arithmetic .divide) args) = .error (.overflow (.arithmetic .divide)) ∧
      (evaluate 100 row (.call (.arithmetic .mod) args)).IsInteger 0 ∧
      (evaluate 100 row (.call (.arithmetic .subtract) args)).IsInteger (least + 1) ∧
      more.map (evaluate 100 row) = [Int64.minValue, -1, 1].map (fun i => .value (.integer i)) ∧
      InInt64 [least, -1, 1].sum ∧
      evaluate 100 row (.call (.arithmetic .add) more) = .error (.overflow (.arithmetic .add)) := by
  intro row args more least
  have two : args.map (evaluate 100 row) = [Int64.minValue, -1].map fun i => .value (.integer i) := rfl
  have three : more.map (evaluate 100 row) = [Int64.minValue, -1, 1].map fun i => .value (.integer i) := rfl
  obtain ⟨difference, _, quotients⟩ := (integer_arithmetic_exact 100 row two).2 _ _ rfl
  obtain ⟨q, m, _, quotient, remainder, zero⟩ := quotients (by decide)
  have leaves : Int64.minValue.toInt = -2 ^ 63 ∧ (-1 : Int64).toInt = -1 := by decide
  obtain ⟨sum, _⟩ := (integer_arithmetic_exact 100 row three).1 (by decide)
  have leaves_early : ¬ FitsThroughout List.sum ([Int64.minValue, -1, 1].map Int64.toInt) := fun throughout =>
    absurd (throughout [least, -1] ⟨[1], rfl⟩).1 (by decide)
  exact ⟨two, quotient.2 (not_not_intro leaves), zero leaves ▸ remainder, difference.1.mpr ⟨by decide, by decide⟩,
    three, ⟨by decide, by decide⟩, sum.2 leaves_early⟩

end Calls
end DocQuery
