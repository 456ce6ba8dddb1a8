import Mathlib.Data.List.Infix
import DocQuery.Proofs.Path
import DocQuery.Proofs.Value.Canonical

/-! References inside canonical texts, where the paths of documents stand unquoted. A reference ends at its
closing parenthesis, before a comma or the bracket of what it is a member of, and is read up to there unless
its path looks the same somewhere. -/
namespace DocQuery

/-- The characters that can come after a member of an array or map. -/
def memberEnds : List Char := [',', ']', '\x7d']

/-- The text is at its end or goes on like one after a member of an array or map. -/
def EndsMember (rest : List Char) : Prop := ∀ c ∈ rest.head?, c ∈ memberEnds

theorem follows_endsMember : Follows EndsMember where
  closed rest h c hc := by
    have ends := h c hc
    simp only [memberEnds, List.mem_cons, List.not_mem_nil, or_false] at ends
    rcases ends with rfl | rfl | rfl <;> rfl
  comma rest := by rintro _ ⟨⟩; decide
  bracket rest := by rintro _ ⟨⟩; decide
  brace rest := by rintro _ ⟨⟩; decide

namespace DocumentKey

variable {j k : DocumentKey} {rest rest' : List Char}

/-- Nothing in the text of the key looks like the end of a reference inside an array or map. -/
def Contained (key : DocumentKey) : Prop := ∀ c ∈ memberEnds, ¬ [')', c] <:+: key.text.toList

instance (key : DocumentKey) : Decidable key.Contained :=
  List.decidableBAll (fun c => ¬ [')', c] <:+: key.text.toList) memberEnds

/-- A text that goes on where a reference to it ends is that of no contained key. -/
theorem Contained.stops (hk : k.Contained) (ends : EndsMember rest) {tail : List Char}
    (longer : k.text.toList = j.text.toList ++ tail) (after : ')' :: rest = tail ++ ')' :: rest') : tail = [] := by
  cases tail with
  | nil => rfl
  | cons c tail =>
    -- what is left starts with the parenthesis after the shorter text and goes on like what follows it
    obtain ⟨rfl, later⟩ := List.cons.inj after
    cases tail with
    | nil =>
      rw [later] at ends
      exact absurd (ends ')' rfl) (by decide)
    | cons c tail =>
      rw [later] at ends
      refine absurd ?_ (hk c (ends c rfl))
      exact ⟨j.text.toList, tail, by rw [longer]; simp⟩

theorem readable_contained : ReadableBefore EndsMember fun key => key.Parsed ∧ key.Contained := by
  rintro j k ⟨readJ, hj⟩ ⟨readK, hk⟩ rest rest' ends ends' eq
  have same : j.text.toList = k.text.toList ∧ rest = rest' := by
    rcases List.append_eq_append_iff.mp eq with ⟨tail, longer, after⟩ | ⟨tail, longer, after⟩
    · obtain rfl := hk.stops ends longer after
      exact ⟨by simpa using longer.symm, List.tail_eq_of_cons_eq after⟩
    · obtain rfl := hj.stops ends' longer after
      exact ⟨by simpa using longer, (List.tail_eq_of_cons_eq after).symm⟩
  exact ⟨readJ.text_inj readK (String.toList_inj.mp same.1), same.2⟩

end DocumentKey
end DocQuery
