import Mathlib.Data.List.TakeDrop
import Mathlib.Data.Option.Basic
import Mathlib.Tactic.SplitIfs
import DocQuery.Regex.Escape

/-! Reading with more text behind. What a reader makes of a text it also makes of the text with a closing parenthesis
and a dollar sign behind it, unless it fails for want of more: then it may take from what was added. -/
namespace DocQuery.Regex

/-- What stands behind an expression that has to match all of a text. -/
def closing : List Char := [')', '$']

/-- The same text, or the text with the closing behind it. Both ways a reader has the same before it: a comment that
reaches the end of a text takes in what is added there. -/
inductive Continues : List Char → List Char → Prop
  | same (cs : List Char) : Continues cs cs
  | closed (cs : List Char) : Continues cs (cs ++ closing)

namespace Continues

variable {c : Char} {cs cs' : List Char}

theorem nil_cases (h : Continues [] cs') : cs' = [] ∨ cs' = closing := by
  cases h with
  | same => exact .inl rfl
  | closed => exact .inr rfl

theorem cons_cases (h : Continues (c :: cs) cs') : ∃ rest, cs' = c :: rest ∧ Continues cs rest := by
  cases h with
  | same => exact ⟨cs, rfl, .same cs⟩
  | closed => exact ⟨cs ++ closing, rfl, .closed cs⟩

theorem cons (c : Char) (h : Continues cs cs') : Continues (c :: cs) (c :: cs') := by
  cases h with
  | same => exact .same (c :: cs)
  | closed => exact .closed (c :: cs)

/-- A character that is not the closing parenthesis is at the front of both texts or of neither. -/
theorem head_cases (other : c ≠ ')') (h : Continues cs cs') :
    (∃ rest rest', cs = c :: rest ∧ cs' = c :: rest' ∧ Continues rest rest') ∨
      (∀ rest, cs ≠ c :: rest) ∧ ∀ rest, cs' ≠ c :: rest := by
  cases cs with
  | nil =>
    refine .inr ⟨nofun, ?_⟩
    rcases h.nil_cases with rfl | rfl
    · nofun
    · rintro rest same
      exact other (List.cons.inj same).1.symm
  | cons d cs =>
    obtain ⟨rest, rfl, tail⟩ := h.cons_cases
    by_cases same : d = c
    · subst same
      exact .inl ⟨cs, rest, rfl, rfl, tail⟩
    · exact .inr ⟨fun _ eq => same (List.cons.inj eq).1, fun _ eq => same (List.cons.inj eq).1⟩

theorem head?_iff (other : c ≠ ')') (h : Continues cs cs') : cs.head? = some c ↔ cs'.head? = some c := by
  rcases h.head_cases other with ⟨rest, rest', rfl, rfl, _⟩ | ⟨other, other'⟩
  · simp
  · simp only [List.head?_eq_some_iff]
    exact ⟨fun ⟨rest, eq⟩ => absurd eq (other rest), fun ⟨rest, eq⟩ => absurd eq (other' rest)⟩

theorem dropWhile {p : Char → Bool} (stops : p ')' = false) (h : Continues cs cs') :
    Continues (cs.dropWhile p) (cs'.dropWhile p) := by
  induction cs generalizing cs' with
  | nil =>
    rcases h.nil_cases with rfl | rfl
    · exact .same _
    · rw [closing, List.dropWhile_cons_of_neg (by simp [stops])]
      exact .closed []
  | cons c cs ih =>
    obtain ⟨rest, rfl, tail⟩ := h.cons_cases
    by_cases taken : p c = true
    · rw [List.dropWhile_cons_of_pos taken, List.dropWhile_cons_of_pos taken]
      exact ih tail
    · rwa [List.dropWhile_cons_of_neg taken, List.dropWhile_cons_of_neg taken]

end Continues

section Skipping

variable {flags : Flags} {cs cs' : List Char}

theorem skipVerbose_suffix (inside : Bool) (cs : List Char) : skipVerbose inside cs <:+ cs := by
  induction cs generalizing inside with
  | nil => cases inside <;> exact List.suffix_rfl
  | cons c cs ih =>
    have later (inside : Bool) := (ih inside).trans (List.suffix_cons c cs)
    cases inside with
    | true =>
      rw [skipVerbose]
      split
      · exact later false
      · exact later true
    | false =>
      rw [skipVerbose]
      split_ifs
      · exact later false
      · exact later true
      · exact List.suffix_rfl

theorem skip_suffix (flags : Flags) (cs : List Char) : skip flags cs <:+ cs := by
  unfold skip
  split
  · exact skipVerbose_suffix false cs
  · exact List.suffix_rfl

theorem skipVerbose_of_stop {c : Char} (filled : Unicode.isBlank c = false) (code : c ≠ '#') (cs : List Char) :
    skipVerbose false (c :: cs) = c :: cs := by
  rw [skipVerbose, filled, if_neg Bool.false_ne_true, if_neg code]

theorem Continues.skipVerbose (inside : Bool) (h : Continues cs cs') :
    Continues (Regex.skipVerbose inside cs) (Regex.skipVerbose inside cs') := by
  induction cs generalizing inside cs' with
  | nil =>
    rcases h.nil_cases with rfl | rfl
    · exact .same _
    · cases inside with
      | true => exact .same []
      | false =>
        rw [closing, skipVerbose_of_stop (by decide +kernel) (by decide)]
        exact .closed []
  | cons c cs ih =>
    obtain ⟨rest, rfl, tail⟩ := h.cons_cases
    cases inside with
    | true =>
      rw [Regex.skipVerbose, Regex.skipVerbose]
      split
      · exact ih false tail
      · exact ih true tail
    | false =>
      rw [Regex.skipVerbose, Regex.skipVerbose]
      split_ifs
      · exact ih false tail
      · exact ih true tail
      · exact h

theorem Continues.skip (flags : Flags) (h : Continues cs cs') : Continues (skip flags cs) (skip flags cs') := by
  unfold Regex.skip
  split
  · exact h.skipVerbose false
  · exact h

@[simp] theorem skip_nil (flags : Flags) : skip flags [] = [] := by
  cases h : flags.verbose <;> simp [skip, h, skipVerbose]

theorem skip_of_stop {c : Char} (filled : Unicode.isBlank c = false) (code : c ≠ '#') (flags : Flags) (cs : List Char) :
    skip flags (c :: cs) = c :: cs := by
  unfold skip
  split
  · exact skipVerbose_of_stop filled code cs
  · rfl

@[simp] theorem skip_dollar (flags : Flags) : skip flags ['$'] = ['$'] :=
  skip_of_stop (by decide +kernel) (by decide) flags []

@[simp] theorem skip_closing (flags : Flags) : skip flags closing = closing :=
  skip_of_stop (by decide +kernel) (by decide) flags ['$']

end Skipping

section Gathering

variable {flags : Flags} {cs cs' : List Char} {m n : Nat}

/-- Characters of one kind from the front of a text, past the blanks of verbose mode. -/
def gather (p : Char → Bool) (flags : Flags) : Nat → List Char → List Char × List Char
  | 0, cs => ([], cs)
  | _ + 1, [] => ([], [])
  | n + 1, c :: rest =>
    if p c then (c :: (gather p flags n (skip flags rest)).1, (gather p flags n (skip flags rest)).2) else ([], c :: rest)

theorem gather_suffix (p : Char → Bool) (flags : Flags) (n : Nat) (cs : List Char) : (gather p flags n cs).2 <:+ cs := by
  induction n generalizing cs with
  | zero => exact List.suffix_rfl
  | succ n ih =>
    cases cs with
    | nil => exact List.suffix_rfl
    | cons c rest =>
      rw [gather]
      split
      · exact (ih _).trans ((skip_suffix flags rest).trans (List.suffix_cons c rest))
      · exact List.suffix_rfl

/-- What was read is the same, and so is what follows, as far as it is there. -/
def Beside (a b : α × List Char) : Prop := a.1 = b.1 ∧ Continues a.2 b.2

theorem gather_beside {p : Char → Bool} (flags : Flags) (stops : p ')' = false) (h : Continues cs cs') (enough : cs.length ≤ n)
    (enough' : cs'.length ≤ m) : Beside (gather p flags n cs) (gather p flags m cs') := by
  have nothing {cs' : List Char} (n m : Nat) (h : Continues [] cs') :
      Beside (gather p flags n []) (gather p flags m cs') := by
    rcases h.nil_cases with rfl | rfl <;> cases n <;> cases m <;> simpa [Beside, gather, closing, stops] using h
  induction n generalizing m cs cs' with
  | zero =>
    obtain rfl := List.length_eq_zero_iff.mp (Nat.le_zero.mp enough)
    exact nothing 0 m h
  | succ n ih =>
    cases cs with
    | nil => exact nothing (n + 1) m h
    | cons c rest =>
      obtain ⟨rest', rfl, tail⟩ := h.cons_cases
      have shorter := (skip_suffix flags rest).length_le
      have shorter' := (skip_suffix flags rest').length_le
      rw [List.length_cons] at enough enough'
      obtain ⟨m, rfl⟩ := Nat.exists_eq_add_one_of_ne_zero (Nat.ne_zero_of_lt enough')
      rw [gather, gather]
      by_cases kind : p c = true
      · rw [if_pos kind, if_pos kind]
        obtain ⟨same, left⟩ := ih (m := m) (tail.skip flags) (by omega) (by omega)
        exact ⟨congrArg (c :: ·) same, left⟩
      · rw [if_neg kind, if_neg kind]
        exact ⟨rfl, h⟩

theorem span_suffix (p : Char → Bool) (cs : List Char) : (cs.span p).2 <:+ cs := by
  rw [List.span_eq_takeWhile_dropWhile]
  exact List.dropWhile_suffix p

/-- Cutting a text at a character finds it both ways, or leaves nothing both ways. -/
theorem span_cases {c : Char} (other : c ∉ closing) (h : Continues cs cs') :
    (∃ name rest rest', cs.span (· ≠ c) = (name, c :: rest) ∧ cs'.span (· ≠ c) = (name, c :: rest') ∧
      Continues rest rest') ∨ (cs.span (· ≠ c)).2 = [] ∧ (cs'.span (· ≠ c)).2 = [] := by
  simp only [List.span_eq_takeWhile_dropWhile]
  induction cs generalizing cs' with
  | nil =>
    refine .inr ⟨rfl, ?_⟩
    rcases h.nil_cases with rfl | rfl
    · rfl
    · simp only [closing, List.mem_cons, List.not_mem_nil, or_false, not_or] at other
      simp [closing, Ne.symm other.1, Ne.symm other.2]
  | cons d cs ih =>
    obtain ⟨rest, rfl, tail⟩ := h.cons_cases
    by_cases here : d = c
    · subst here
      exact .inl ⟨[], cs, rest, by simp, by simp, tail⟩
    · have take (cs : List Char) : (d :: cs).takeWhile (· ≠ c) = d :: cs.takeWhile (· ≠ c) :=
        List.takeWhile_cons_of_pos (decide_eq_true here)
      have drop (cs : List Char) : (d :: cs).dropWhile (· ≠ c) = cs.dropWhile (· ≠ c) :=
        List.dropWhile_cons_of_pos (decide_eq_true here)
      rw [take, drop, take, drop]
      rcases ih tail with ⟨name, left, left', eq, eq', more⟩ | ⟨none_left, none_left'⟩
      · obtain ⟨taken, dropped⟩ := Prod.mk.inj eq
        obtain ⟨taken', dropped'⟩ := Prod.mk.inj eq'
        rw [taken, dropped, taken', dropped']
        exact .inl ⟨d :: name, left, left', rfl, rfl, more⟩
      · exact .inr ⟨none_left, none_left'⟩

end Gathering

section Results

variable {α β γ δ : Type}

/-- A reader's results for a text and for a continued one. It fails for both or for neither, unless what was added lets
it succeed late. -/
inductive Agrees (related : α → β → Prop) (late : β → Prop) : Except Fault α → Except Fault β → Prop
  | ok {a b} (h : related a b) : Agrees related late (.ok a) (.ok b)
  | error (e e' : Fault) : Agrees related late (.error e) (.error e')
  | late (e : Fault) {b} (h : late b) : Agrees related late (.error e) (.ok b)

/-- For readers that never succeed late. -/
def Never (_ : α) : Prop := False

namespace Agrees

variable {related : α → β → Prop} {late : β → Prop} {related' : γ → δ → Prop} {late' : δ → Prop}
  {x : Except Fault α} {y : Except Fault β}

theorem bind {k : α → Except Fault γ} {k' : β → Except Fault δ} (h : Agrees related late x y)
    (next : ∀ a b, related a b → Agrees related' late' (k a) (k' b))
    (after : ∀ e b, late b → Agrees related' late' (.error e) (k' b)) : Agrees related' late' (x >>= k) (y >>= k') := by
  cases h with
  | ok h => exact next _ _ h
  | error e e' => exact .error e e'
  | late e h => exact after e _ h

/-- The same value is computed both ways, with no look at the text. -/
theorem bind_value {v : Except Fault α} {k : α → Except Fault γ} {k' : α → Except Fault δ}
    (next : ∀ a, Agrees related' late' (k a) (k' a)) : Agrees related' late' (v >>= k) (v >>= k') := by
  cases v with
  | ok a => exact next a
  | error e => exact .error e e

/-- The same is done with what an optional reader finds. -/
theorem elim {x y : Option (α × List Char)} {k : α × List Char → Except Fault γ} {k' : α × List Char → Except Fault δ}
    (h : Option.Rel Beside x y) (e : Fault)
    (next : ∀ a rest rest', Continues rest rest' → Agrees related' late' (k (a, rest)) (k' (a, rest'))) :
    Agrees related' late' (x.elim (.error e) k) (y.elim (.error e) k') := by
  cases h with
  | none => exact .error e e
  | @some a b same =>
    obtain ⟨value, rest⟩ := a
    obtain ⟨_, rest'⟩ := b
    obtain ⟨rfl, left⟩ := same
    exact next value rest rest' left

theorem weaken {late' : β → Prop} (h : Agrees related late x y) (weaker : ∀ b, late b → late' b) :
    Agrees related late' x y := by
  cases h with
  | ok h => exact .ok h
  | error e e' => exact .error e e'
  | late e h => exact .late e (weaker _ h)

theorem never (h : Agrees related Never x y) : Agrees related late x y := h.weaken fun _ => False.elim

theorem of_refused (e : Fault) (h : ∃ e', y = .error e') : Agrees related late (.error e) y := by
  obtain ⟨e', rfl⟩ := h
  exact .error e e'

theorem of_late (e : Fault) (h : ∀ b, y = .ok b → late b) : Agrees related late (.error e) y := by
  cases y with
  | ok b => exact .late e (h b rfl)
  | error e' => exact .error e e'

end Agrees

/-- What is left of a text is its end. -/
def Leaves (cs : List Char) (x : Except Fault (α × List Char)) : Prop := ∀ a rest, x = .ok (a, rest) → rest <:+ cs

namespace Leaves

variable {cs cs' rest : List Char} {x : Except Fault (α × List Char)}

theorem ok {a : α} (h : rest <:+ cs) : Leaves cs (.ok (a, rest)) := by
  rintro a rest ⟨⟩
  exact h

theorem error (e : Fault) : Leaves (α := α) cs (.error e) := nofun

theorem bind {k : α × List Char → Except Fault (β × List Char)} (h : Leaves cs x)
    (next : ∀ a rest, rest <:+ cs → Leaves cs (k (a, rest))) : Leaves cs (x >>= k) := by
  cases x with
  | ok a => exact next a.1 a.2 (h a.1 a.2 rfl)
  | error e => exact error e

theorem bind_value {v : Except Fault α} {k : α → Except Fault (β × List Char)} (next : ∀ a, Leaves cs (k a)) :
    Leaves cs (v >>= k) := by
  cases v with
  | ok a => exact next a
  | error e => exact error e

theorem trans (h : Leaves cs' x) (shorter : cs' <:+ cs) : Leaves cs x :=
  fun a rest read => (h a rest read).trans shorter

end Leaves

/-- Reading on after what was read. -/
theorem Agrees.bind_leaves {late : α × List Char → Prop} {related : γ → δ → Prop} {late' : δ → Prop}
    {x y : Except Fault (α × List Char)} {k : α × List Char → Except Fault γ} {k' : α × List Char → Except Fault δ}
    {cs cs' : List Char} (h : Agrees Beside late x y) (leaves : Leaves cs x) (leaves' : Leaves cs' y)
    (next : ∀ a left left', Continues left left' → left <:+ cs → left' <:+ cs' →
      Agrees related late' (k (a, left)) (k' (a, left')))
    (after : ∀ e a left, late (a, left) → Agrees related late' (.error e) (k' (a, left))) :
    Agrees related late' (x >>= k) (y >>= k') := by
  cases h with
  | @ok a b same =>
    obtain ⟨value, left⟩ := a
    obtain ⟨_, left'⟩ := b
    obtain ⟨rfl, more⟩ := same
    exact next value left left' more (leaves value left rfl) (leaves' value left' rfl)
  | error e e' => exact .error e e'
  | late e h => exact after e _ _ h

end Results

end DocQuery.Regex
