import Mathlib.Data.Nat.Bitwise
import DocQuery.Regex.Matcher

/-! Where in a text an expression matches. A set of positions advances to the ends of just the matches that
begin in it, so the matcher tells whether there is any match at all. -/
namespace DocQuery.Regex

/-- A relation followed so many times. -/
def Repeats (R : Nat → Nat → Prop) : Nat → Nat → Nat → Prop
  | 0, i, j => i = j
  | n + 1, i, j => ∃ k, R i k ∧ Repeats R n k j

/-- The expression matches a text from one position to another. A repetition goes on after the least number
of times for as long as it may. -/
def Spans (text : List Char) : Regex → Nat → Nat → Prop
  | empty, i, j => i = j
  | one chars, i, j => j = i + 1 ∧ ∃ c ∈ text[i]?, chars.contains c
  | assert a, i, j => i = j ∧ i ≤ text.length ∧ a.holds (text.take i).getLast? (text.drop i).head?
  | cat a b, i, j => ∃ k, Spans text a i k ∧ Spans text b k j
  | alt a b, i, j => Spans text a i j ∨ Spans text b i j
  | times a least most, i, j => ∃ more, (∀ m ∈ most, more ≤ m - least) ∧ Repeats (Spans text a) (least + more) i j
  | group a, i, j => Spans text a i j

section Repeats

variable {R : Nat → Nat → Prop} {i j m n : Nat}

theorem repeats_add : Repeats R (m + n) i j ↔ ∃ k, Repeats R m i k ∧ Repeats R n k j := by
  induction m generalizing i with
  | zero => simp [Repeats]
  | succ m ih =>
    rw [Nat.add_right_comm, Repeats]
    simp only [ih, Repeats]
    constructor
    · rintro ⟨l, first, k, others, last⟩
      exact ⟨k, ⟨l, first, others⟩, last⟩
    · rintro ⟨k, ⟨l, first, others⟩, last⟩
      exact ⟨l, first, k, others, last⟩

/-- The relation leads forward, and not past the end. -/
def Forward (last : Nat) (R : Nat → Nat → Prop) : Prop := ∀ i j, R i j → i = j ∨ i < j ∧ j ≤ last

theorem Forward.repeats {last : Nat} (forward : Forward last R) (n : Nat) : Forward last (Repeats R n) := by
  induction n with
  | zero => exact fun i j same => .inl same
  | succ n ih =>
    rintro i j ⟨k, first, rest⟩
    have := forward i k first
    have := ih k j rest
    omega

/-- Steps that stay where they are can be left out. -/
theorem Forward.shorten {last : Nat} (forward : Forward last R) (h : Repeats R n i j) :
    ∃ m ≤ last + 1, Repeats R m i j := by
  have few : ∃ m ≤ j - i, Repeats R m i j := by
    induction n generalizing i with
    | zero => exact ⟨0, Nat.zero_le _, h⟩
    | succ n ih =>
      obtain ⟨k, step, rest⟩ := h
      obtain ⟨m, few, short⟩ := ih rest
      rcases forward i k step with rfl | ⟨moved, _⟩
      · exact ⟨m, few, short⟩
      · have := forward.repeats n k j rest
        exact ⟨m + 1, by omega, k, step, short⟩
  obtain ⟨m, few, short⟩ := few
  have := forward.repeats n i j h
  exact ⟨m, by omega, short⟩

end Repeats

theorem forward_spans (text : List Char) (a : Regex) : Forward text.length (Spans text a) := by
  intro i j h
  induction a generalizing i j with
  | empty => exact .inl h
  | one chars =>
    obtain ⟨rfl, c, found, _⟩ := h
    exact .inr ⟨Nat.lt_succ_self i, (List.getElem?_eq_some_iff.mp found).1⟩
  | assert a => exact .inl h.1
  | cat a b iha ihb =>
    obtain ⟨k, left, right⟩ := h
    have := iha i k left
    have := ihb k j right
    omega
  | alt a b iha ihb => exact h.elim (iha i j) (ihb i j)
  | times a least most ih =>
    obtain ⟨more, _, steps⟩ := h
    exact Forward.repeats ih (least + more) i j steps
  | group a ih => exact ih i j h

section Positions

theorem testBit_positionsOf (test : α → Bool) (items : List α) (i : Nat) :
    (positionsOf test items).testBit i = items[i]?.any test := by
  induction items generalizing i with
  | nil => simp [positionsOf]
  | cons a items ih =>
    have bits : positionsOf test (a :: items) = 2 * positionsOf test items + (test a).toNat := rfl
    have digit := (test a).toNat_le
    cases i with
    | zero =>
      rw [Nat.testBit_zero, bits, Nat.mul_add_mod, List.getElem?_cons_zero, Option.any_some]
      cases test a <;> rfl
    | succ i =>
      have half : positionsOf test (a :: items) / 2 = positionsOf test items := by omega
      rw [Nat.testBit_succ, half, ih, List.getElem?_cons_succ]

theorem getElem?_neighbours (text : List Char) (i : Nat) : (neighbours text)[i]? =
    if i ≤ text.length then some ((text.take i).getLast?, (text.drop i).head?) else none := by
  have before : (none :: text.map some)[i]? = if i ≤ text.length then some (text.take i).getLast? else none := by
    cases i with
    | zero => simp
    | succ i =>
      rw [List.getElem?_cons_succ, List.getElem?_map, List.getLast?_take]
      by_cases inside : i < text.length
      · rw [if_pos (show i + 1 ≤ text.length from inside)]
        simp [inside]
      · rw [if_neg (show ¬ i + 1 ≤ text.length from inside)]
        simp [inside]
  have after : i ≤ text.length → (text.map some ++ [none])[i]? = some (text.drop i).head? := by
    intro inside
    rw [List.head?_drop, List.getElem?_append, List.length_map]
    rcases inside.lt_or_eq with inside | rfl <;> simp [inside]
  rw [neighbours, List.zip, List.getElem?_zipWith, before]
  by_cases inside : i ≤ text.length
  · simp only [if_pos inside, after inside]
  · simp only [if_neg inside]

end Positions

/-- A function of sets that takes a set to what its members lead to. -/
def Advances (f : Nat → Nat) (R : Nat → Nat → Prop) : Prop :=
  ∀ set j, (f set).testBit j ↔ ∃ i, set.testBit i ∧ R i j

section Advances

variable {f : Nat → Nat} {R : Nat → Nat → Prop} {set j n : Nat}

theorem Advances.repeats_of_fixed (h : Advances f R) (fixed : f set = set) (n j : Nat) :
    set.testBit j ↔ ∃ i, set.testBit i ∧ Repeats R n i j := by
  induction n with
  | zero => simp [Repeats]
  | succ n ih =>
    rw [ih]
    constructor
    · rintro ⟨k, held, rest⟩
      rw [← fixed] at held
      obtain ⟨i, start, first⟩ := (h set k).mp held
      exact ⟨i, start, k, first, rest⟩
    · rintro ⟨i, start, k, first, rest⟩
      have held := (h set k).mpr ⟨i, start, first⟩
      rw [fixed] at held
      exact ⟨k, held, rest⟩

theorem Advances.exactly (h : Advances f R) (n : Nat) : Advances (exactly f n) (Repeats R n) := by
  induction n with
  | zero => simp [Advances, Regex.exactly, Repeats]
  | succ n ih =>
    intro set j
    rw [Regex.exactly]
    split
    case isTrue fixed => exact h.repeats_of_fixed fixed (n + 1) j
    case isFalse =>
      rw [ih]
      constructor
      · rintro ⟨k, held, rest⟩
        obtain ⟨i, start, first⟩ := (h set k).mp held
        exact ⟨i, start, k, first, rest⟩
      · rintro ⟨i, start, k, first, rest⟩
        exact ⟨k, (h set k).mpr ⟨i, start, first⟩, rest⟩

theorem Advances.upTo (h : Advances f R) (n : Nat) :
    Advances (upTo f n) fun i j => ∃ m ≤ n, Repeats R m i j := by
  induction n with
  | zero => simp [Advances, Regex.upTo, Repeats]
  | succ n ih =>
    intro set j
    have grown (k : Nat) : (set ||| f set).testBit k ↔ set.testBit k ∨ ∃ i, set.testBit i ∧ R i k := by
      rw [Nat.testBit_or, Bool.or_eq_true, h]
    rw [Regex.upTo]
    split
    case isTrue closed =>
      refine ⟨fun held => ⟨j, held, 0, Nat.zero_le _, rfl⟩, ?_⟩
      rintro ⟨i, start, m, _, steps⟩
      induction m generalizing i with
      | zero => exact steps ▸ start
      | succ m again =>
        obtain ⟨k, first, rest⟩ := steps
        have held : (set ||| f set).testBit k := (grown k).mpr (.inr ⟨i, start, first⟩)
        rw [closed] at held
        exact again k held (by omega) rest
    case isFalse =>
      rw [ih]
      constructor
      · rintro ⟨k, held, m, few, rest⟩
        rcases (grown k).mp held with old | ⟨i, start, first⟩
        · exact ⟨k, old, m, by omega, rest⟩
        · exact ⟨i, start, m + 1, by omega, k, first, rest⟩
      · rintro ⟨i, start, m, few, steps⟩
        cases m with
        | zero => exact ⟨i, (grown i).mpr (.inl start), 0, Nat.zero_le _, steps⟩
        | succ m =>
          obtain ⟨k, first, rest⟩ := steps
          exact ⟨k, (grown k).mpr (.inr ⟨i, start, first⟩), m, by omega, rest⟩

end Advances

theorem advances_spans (text : List Char) (a : Regex) : Advances (advance text a) (Spans text a) := by
  induction a with
  | empty => simp [Advances, advance, Spans]
  | one chars =>
    intro set j
    rw [advance, Nat.testBit_shiftLeft, Nat.testBit_and, charPositions, testBit_positionsOf]
    cases j with
    | zero => simp [Spans]
    | succ j => simp [Spans, Option.any_eq_true]
  | assert a =>
    intro set j
    rw [advance, Nat.testBit_and, assertionPositions, testBit_positionsOf, getElem?_neighbours]
    by_cases inside : j ≤ text.length <;> simp [Spans, inside]
  | cat a b iha ihb =>
    intro set j
    rw [advance, ihb]
    constructor
    · rintro ⟨k, held, right⟩
      obtain ⟨i, start, left⟩ := (iha set k).mp held
      exact ⟨i, start, k, left, right⟩
    · rintro ⟨i, start, k, left, right⟩
      exact ⟨k, (iha set k).mpr ⟨i, start, left⟩, right⟩
  | alt a b iha ihb =>
    intro set j
    rw [advance, Nat.testBit_or, Bool.or_eq_true, iha, ihb]
    simp only [Spans, and_or_left, exists_or]
  | times a least most ih =>
    intro set j
    rw [advance, ih.upTo]
    constructor
    · rintro ⟨k, held, more, few, rest⟩
      obtain ⟨i, start, first⟩ := (ih.exactly least set k).mp held
      refine ⟨i, start, more, ?_, repeats_add.mpr ⟨k, first, rest⟩⟩
      rintro m rfl
      exact few
    · rintro ⟨i, start, more, few, steps⟩
      obtain ⟨k, first, rest⟩ := repeats_add.mp steps
      refine ⟨k, (ih.exactly least set k).mpr ⟨i, start, first⟩, ?_⟩
      cases most with
      | none => exact (forward_spans text a).shorten rest
      | some m => exact ⟨more, few m rfl, rest⟩
  | group a ih => exact ih

/-- The matcher tells whether the expression matches between any two positions of the text. -/
theorem matchesIn_iff (a : Regex) (text : List Char) :
    a.matchesIn text = true ↔ ∃ i j, i ≤ text.length ∧ Spans text a i j := by
  have every (i : Nat) : (1 <<< (text.length + 1) - 1).testBit i = true ↔ i ≤ text.length := by
    rw [Nat.one_shiftLeft, Nat.testBit_two_pow_sub_one, decide_eq_true_eq, Nat.lt_succ_iff]
  have some_bit (n : Nat) : n ≠ 0 ↔ ∃ j, n.testBit j = true :=
    ⟨Nat.exists_testBit_of_ne_zero, fun ⟨j, held⟩ zero => by simp [zero] at held⟩
  rw [matchesIn, decide_eq_true_eq, some_bit]
  simp only [advances_spans text a _ _, every]
  exact exists_comm

/-- Matches of the whole text. -/
def whole (a : Regex) : Regex := cat (assert .textStart) (cat a (assert .textEnd))

section Shapes

variable {text : List Char} {i j : Nat}

theorem spans_concat_cons (a : Regex) (as : List Regex) :
    Spans text (concat (a :: as)) i j ↔ ∃ k, Spans text a i k ∧ Spans text (concat as) k j := by
  cases as with
  | nil => simp [concat, Spans]
  | cons b bs => rfl

theorem matchesIn_whole_iff (a : Regex) (text : List Char) :
    (whole a).matchesIn text = true ↔ Spans text a 0 text.length := by
  have first (i : Nat) : Assertion.textStart.holds (text.take i).getLast? (text.drop i).head? = true ↔
      text.take i = [] := by simp [Assertion.holds]
  have last (i : Nat) : Assertion.textEnd.holds (text.take i).getLast? (text.drop i).head? = true ↔
      text.drop i = [] := by simp [Assertion.holds]
  rw [matchesIn_iff]
  simp only [whole, Spans, first, last, List.drop_eq_nil_iff, List.take_eq_nil_iff]
  constructor
  · rintro ⟨i, _, _, _, ⟨rfl, inside, start⟩, k, span, _, bound, stop⟩
    obtain rfl : i = 0 := start.elim id fun none => by simpa [none] using inside
    obtain rfl : k = text.length := Nat.le_antisymm bound stop
    exact span
  · intro span
    exact ⟨0, text.length, Nat.zero_le _, 0, ⟨rfl, Nat.zero_le _, .inl rfl⟩, text.length, span, rfl, le_refl _,
      le_refl _⟩

theorem spans_one_iff (chars : CharClass) :
    Spans text (one chars) i j ↔ j = i + 1 ∧ ∃ c, chars.contains c ∧ text.drop i = c :: text.drop j := by
  rw [Spans]
  refine and_congr_right ?_
  rintro rfl
  refine exists_congr fun c => ?_
  rw [and_comm, Option.mem_def]
  refine and_congr_right fun _ => ⟨fun found => ?_, fun rest => ?_⟩
  · obtain ⟨inside, rfl⟩ := List.getElem?_eq_some_iff.mp found
    exact List.drop_eq_getElem_cons inside
  · rw [← List.head?_drop, rest, List.head?_cons]

end Shapes
end DocQuery.Regex
