import DocQuery.Proofs.Text.Reading
import DocQuery.Text.Quoted

/-! A quoted text is read up to its first unescaped quote, and what is read is the text. -/
namespace DocQuery

theorem digitChar_inj {m n : Nat} (hm : m < 16) (hn : n < 16) (h : m.digitChar = n.digitChar) :
    m = n := by
  have table : ∀ i j : Fin 16, i.val.digitChar = j.val.digitChar → i = j := by decide
  exact congrArg Fin.val (table ⟨m, hm⟩ ⟨n, hn⟩ h)

theorem toDigits_inj {m n : Nat} (h : Nat.toDigits 16 m = Nat.toDigits 16 n) : m = n := by
  induction m using Nat.strongRecOn generalizing n with
  | ind m ih =>
    rw [Nat.toDigits_eq_if (by decide), Nat.toDigits_eq_if (n := n) (by decide)] at h
    by_cases hm : m < 16 <;> by_cases hn : n < 16
    · rw [if_pos hm, if_pos hn] at h
      exact digitChar_inj hm hn (List.head_eq_of_cons_eq h)
    · rw [if_pos hm, if_neg hn] at h
      have longer := congrArg List.length h
      simp at longer
    · rw [if_neg hm, if_pos hn] at h
      have longer := congrArg List.length h
      simp at longer
    · rw [if_neg hm, if_neg hn] at h
      obtain ⟨front, last⟩ := List.append_inj' h rfl
      have quotient := ih (m / 16) (by omega) front
      have remainder := digitChar_inj (Nat.mod_lt _ (by decide)) (Nat.mod_lt _ (by decide))
        (List.head_eq_of_cons_eq last)
      omega

theorem brace_not_mem_toDigits (n : Nat) : ∀ c ∈ Nat.toDigits 16 n, (c != '\x7d') = true := by
  induction n using Nat.strongRecOn with
  | ind n ih =>
    intro c hc
    rw [Nat.toDigits_eq_if (by decide)] at hc
    split at hc
    · rw [List.mem_singleton.mp hc]
      simp
    · rcases List.mem_append.mp hc with front | last
      · exact ih (n / 16) (by omega) c front
      · rw [List.mem_singleton.mp last]
        simp

namespace Quoted

/-- The marks of the characters with an escape of two characters. -/
def shortEscapes : List (Char × Char) :=
  [('0', '\x00'), ('t', '\t'), ('r', '\r'), ('n', '\n'), ('\\', '\\'), ('"', '"')]

theorem escape_cases (c : Char) :
    (escape c = [c] ∧ c ≠ '\\' ∧ c ≠ '"') ∨ (∃ mark, escape c = ['\\', mark] ∧ (mark, c) ∈ shortEscapes) ∨
      escape c = codeEscape c := by
  unfold escape
  split
  iterate 6 exact .inr (.inl ⟨_, rfl, by decide⟩)
  · next backslash quote =>
    split
    · exact .inl ⟨rfl, backslash, quote⟩
    · exact .inr (.inr rfl)

theorem shortEscapes_inj {mark c d : Char} (hc : (mark, c) ∈ shortEscapes)
    (hd : (mark, d) ∈ shortEscapes) : c = d := by
  have table : ∀ x ∈ shortEscapes, ∀ y ∈ shortEscapes, x.1 = y.1 → x.2 = y.2 := by decide
  exact table _ hc _ hd rfl

theorem shortEscapes_ne_u {mark c : Char} (h : (mark, c) ∈ shortEscapes) : mark ≠ 'u' := by
  have table : ∀ x ∈ shortEscapes, x.1 ≠ 'u' := by decide
  exact table _ h

theorem codeEscape_inj {c d : Char} {rest rest' : List Char}
    (h : codeEscape c ++ rest = codeEscape d ++ rest') : c = d ∧ rest = rest' := by
  have digits : Nat.toDigits 16 c.toNat ++ '}' :: rest = Nat.toDigits 16 d.toNat ++ '}' :: rest' := by
    simpa [codeEscape] using h
  have stop (tail : List Char) : StopsAt (· != '}') ('}' :: tail) := by
    rintro _ ⟨⟩
    rfl
  obtain ⟨code, after⟩ := run_inj (brace_not_mem_toDigits _) (brace_not_mem_toDigits _)
    (stop rest) (stop rest') digits
  exact ⟨Char.toNat_inj.mp (toDigits_inj code), List.tail_eq_of_cons_eq after⟩

theorem escape_inj {c d : Char} {rest rest' : List Char}
    (h : escape c ++ rest = escape d ++ rest') : c = d ∧ rest = rest' := by
  rcases escape_cases c with ⟨hc, slash, _⟩ | ⟨mark, hc, short⟩ | hc <;>
    rcases escape_cases d with ⟨hd, slash', _⟩ | ⟨mark', hd, short'⟩ | hd <;> rw [hc, hd] at h
  · exact List.cons_eq_cons.mp h
  · exact absurd (List.head_eq_of_cons_eq h) slash
  · exact absurd (List.head_eq_of_cons_eq h) slash
  · exact absurd (List.head_eq_of_cons_eq h).symm slash'
  · obtain ⟨same, after⟩ := List.cons_eq_cons.mp (List.tail_eq_of_cons_eq h)
    exact ⟨shortEscapes_inj short (same ▸ short'), after⟩
  · exact absurd (List.head_eq_of_cons_eq (List.tail_eq_of_cons_eq h)) (shortEscapes_ne_u short)
  · exact absurd (List.head_eq_of_cons_eq h).symm slash'
  · exact absurd (List.head_eq_of_cons_eq (List.tail_eq_of_cons_eq h)).symm (shortEscapes_ne_u short')
  · exact codeEscape_inj h

theorem escape_ne_quote {c : Char} {rest rest' : List Char} : escape c ++ rest ≠ '"' :: rest' := by
  intro h
  rcases escape_cases c with ⟨hc, _, quote⟩ | ⟨mark, hc, _⟩ | hc <;> rw [hc] at h
  · exact quote (List.head_eq_of_cons_eq h)
  · exact absurd (List.head_eq_of_cons_eq h) (by decide)
  · exact absurd (List.head_eq_of_cons_eq h) (by decide)

theorem body_inj {cs ds rest rest' : List Char}
    (h : cs.flatMap escape ++ '"' :: rest = ds.flatMap escape ++ '"' :: rest') :
    cs = ds ∧ rest = rest' := by
  induction cs generalizing ds with
  | nil =>
    cases ds with
    | nil => exact ⟨rfl, List.tail_eq_of_cons_eq h⟩
    | cons d ds =>
      rw [List.flatMap_cons, List.append_assoc] at h
      exact absurd h.symm escape_ne_quote
  | cons c cs ih =>
    cases ds with
    | nil =>
      rw [List.flatMap_cons, List.append_assoc] at h
      exact absurd h escape_ne_quote
    | cons d ds =>
      simp only [List.flatMap_cons, List.append_assoc] at h
      obtain ⟨rfl, others⟩ := escape_inj h
      obtain ⟨rfl, after⟩ := ih others
      exact ⟨rfl, after⟩

theorem encode_inj {s t : String} {rest rest' : List Char}
    (h : (encode s).toList ++ rest = (encode t).toList ++ rest') : s = t ∧ rest = rest' := by
  have body : s.toList.flatMap escape ++ '"' :: rest = t.toList.flatMap escape ++ '"' :: rest' := by
    simpa [encode] using h
  obtain ⟨same, after⟩ := body_inj body
  exact ⟨String.toList_inj.mp same, after⟩

end Quoted
end DocQuery
