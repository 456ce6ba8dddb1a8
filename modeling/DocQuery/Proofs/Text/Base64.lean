import DocQuery.Proofs.Text.Reading
import DocQuery.Text.Base64

/-! Bytes are told from each other by their base64 digits, of which none is a bracket. -/
namespace DocQuery.Base64

theorem alphabet_eq : alphabet =
    ['A', 'B', 'C', 'D', 'E', 'F', 'G', 'H', 'I', 'J', 'K', 'L', 'M', 'N', 'O', 'P', 'Q', 'R', 'S', 'T', 'U', 'V',
      'W', 'X', 'Y', 'Z', 'a', 'b', 'c', 'd', 'e', 'f', 'g', 'h', 'i', 'j', 'k', 'l', 'm', 'n', 'o', 'p', 'q', 'r',
      's', 't', 'u', 'v', 'w', 'x', 'y', 'z', '0', '1', '2', '3', '4', '5', '6', '7', '8', '9', '+', '/'] :=
  String.toList_ofList

/-- A digit is found again by its code. -/
theorem idxOf_digit (n : Nat) : (alphabet.map Char.toNat).idxOf (digit n).toNat = n % 64 := by
  have table : ∀ i : Fin 64, (alphabet.map Char.toNat).idxOf (alphabet.getD i.val '=').toNat = i.val := by
    rw [alphabet_eq]
    decide +kernel
  exact table ⟨n % 64, Nat.mod_lt n (by decide)⟩

theorem digit_inj {m n : Nat} (h : digit m = digit n) : m % 64 = n % 64 := by
  rw [← idxOf_digit m, h, idxOf_digit]

theorem digit_plain (n : Nat) : digit n ≠ '=' ∧ (digit n != ')') = true := by
  have table : ∀ i : Fin 64, alphabet.getD i.val '=' ≠ '=' ∧
      (alphabet.getD i.val '=' != ')') = true := by
    rw [alphabet_eq]
    decide +kernel
  exact table ⟨n % 64, Nat.mod_lt n (by decide)⟩

theorem digits_inj {as bs : List UInt8} (h : digits as = digits bs) : as = bs := by
  have padding (n : Nat) : digit n ≠ '=' := (digit_plain n).1
  have byte {a b : UInt8} (h : a.toNat = b.toNat) : a = b := UInt8.toNat_inj.mp h
  induction as using digits.induct generalizing bs with
  | case1 =>
    rcases bs with _ | ⟨b, _ | ⟨c, _ | ⟨d, bs⟩⟩⟩
    · rfl
    all_goals exact absurd h (by simp [digits])
  | case2 a =>
    rcases bs with _ | ⟨b, _ | ⟨c, _ | ⟨d, bs⟩⟩⟩
    · exact absurd h (by simp [digits])
    · have bound := a.toNat_lt
      have bound' := b.toNat_lt
      simp only [digits, List.cons.injEq] at h
      have high := digit_inj h.1
      have low := digit_inj h.2.1
      rw [byte (a := a) (b := b) (by omega)]
    · simp only [digits, List.cons.injEq] at h
      exact absurd h.2.2.1.symm (padding _)
    · simp only [digits, List.cons.injEq] at h
      exact absurd h.2.2.1.symm (padding _)
  | case3 a a' =>
    rcases bs with _ | ⟨b, _ | ⟨c, _ | ⟨d, bs⟩⟩⟩
    · exact absurd h (by simp [digits])
    · simp only [digits, List.cons.injEq] at h
      exact absurd h.2.2.1 (padding _)
    · have bounds := (⟨a.toNat_lt, a'.toNat_lt, b.toNat_lt, c.toNat_lt⟩ : _ ∧ _ ∧ _ ∧ _)
      simp only [digits, List.cons.injEq] at h
      have first := digit_inj h.1
      have second := digit_inj h.2.1
      have third := digit_inj h.2.2.1
      rw [byte (a := a) (b := b) (by omega), byte (a := a') (b := c) (by omega)]
    · simp only [digits, List.cons.injEq] at h
      exact absurd h.2.2.2.1.symm (padding _)
  | case4 a a' a'' as ih =>
    rcases bs with _ | ⟨b, _ | ⟨c, _ | ⟨d, bs⟩⟩⟩
    · exact absurd h (by simp [digits])
    · simp only [digits, List.cons.injEq] at h
      exact absurd h.2.2.1 (padding _)
    · simp only [digits, List.cons.injEq] at h
      exact absurd h.2.2.2.1 (padding _)
    · have bounds := (⟨a.toNat_lt, a'.toNat_lt, a''.toNat_lt, b.toNat_lt, c.toNat_lt, d.toNat_lt⟩ :
        _ ∧ _ ∧ _ ∧ _ ∧ _ ∧ _)
      simp only [digits, List.cons.injEq] at h
      have first := digit_inj h.1
      have second := digit_inj h.2.1
      have third := digit_inj h.2.2.1
      have fourth := digit_inj h.2.2.2.1
      rw [byte (a := a) (b := b) (by omega), byte (a := a') (b := c) (by omega),
        byte (a := a'') (b := d) (by omega), ih h.2.2.2.2]

theorem digits_plain (bs : List UInt8) : ∀ c ∈ digits bs, (c != ')') = true := by
  have plain (n : Nat) : (digit n != ')') = true := (digit_plain n).2
  induction bs using digits.induct with
  | case1 => simp [digits]
  | case2 a =>
    simp only [digits, List.mem_cons, List.not_mem_nil, or_false]
    rintro c (rfl | rfl | rfl | rfl) <;> first | exact plain _ | rfl
  | case3 a b =>
    simp only [digits, List.mem_cons, List.not_mem_nil, or_false]
    rintro c (rfl | rfl | rfl | rfl) <;> first | exact plain _ | rfl
  | case4 a b c bs ih =>
    simp only [digits, List.mem_cons]
    rintro x (rfl | rfl | rfl | rfl | hx) <;> first | exact plain _ | exact ih x hx

end DocQuery.Base64
