import DocQuery.Proofs.Regex.Classes
import DocQuery.Regex.Reader

/-! Repetitions and the openings of groups at the end of a text. Only flags can take the parenthesis that stands behind
it. -/
namespace DocQuery.Regex

section Repetitions

variable {flags : Flags} {cs cs' : List Char}

theorem skipLazy_continues (h : Continues cs cs') : Continues (skipLazy cs) (skipLazy cs') := by
  rcases h.head_cases (c := '?') (by decide) with ⟨rest, rest', rfl, rfl, tail⟩ | ⟨other, other'⟩
  · exact tail
  · have greedy {cs : List Char} (other : ∀ rest, cs ≠ '?' :: rest) : skipLazy cs = cs := by
      unfold skipLazy
      split
      case h_1 => exact absurd rfl (other _)
      case h_2 => rfl
    rwa [greedy other, greedy other']

theorem skipLazy_suffix (cs : List Char) : skipLazy cs <:+ cs := by
  unfold skipLazy
  split
  case h_1 rest => exact List.suffix_cons '?' rest
  case h_2 => exact List.suffix_rfl

theorem readCountDigits_eq (flags : Flags) (n : Nat) (cs : List Char) :
    readCountDigits flags n cs = gather Char.isDigit flags n cs := by
  induction n generalizing cs with
  | zero => rfl
  | succ n ih =>
    cases cs with
    | nil => rfl
    | cons c rest => rw [readCountDigits, gather, ih]

/-- The digits of a count and what follows the blanks after them. -/
def countText (flags : Flags) (cs : List Char) : List Char × List Char :=
  let found := gather Char.isDigit flags ((cs.dropWhile Unicode.isBlank).length + 1) (cs.dropWhile Unicode.isBlank)
  (found.1, skip flags (found.2.dropWhile Unicode.isBlank))

/-- A count of 32 bits, if digits stand for one. -/
def countOf (digits : List Char) : Except Fault (Option Nat) :=
  if digits.isEmpty then .ok none
  else if digitsValue digits < 0x100000000 then .ok (some (digitsValue digits)) else .error .badRepetition

theorem readCount_eq (flags : Flags) (cs : List Char) : readCount flags cs =
    (countOf (countText flags cs).1).map fun count => (count, (countText flags cs).2) := by
  unfold readCount countOf countText
  simp only [readCountDigits_eq]
  generalize gather Char.isDigit flags _ _ = found
  by_cases empty : found.1.isEmpty = true
  · simp only [if_pos empty]
    rfl
  · simp only [if_neg empty]
    by_cases small : digitsValue found.1 < 0x100000000
    · simp only [if_pos small]
      rfl
    · simp only [if_neg small]
      rfl

theorem countText_beside (flags : Flags) (h : Continues cs cs') :
    Beside (countText flags cs) (countText flags cs') := by
  have blank : Unicode.isBlank ')' = false := by decide +kernel
  obtain ⟨digits, left⟩ := gather_beside (p := Char.isDigit) flags (by decide) (h.dropWhile blank)
    (Nat.le_succ _) (Nat.le_succ _)
  exact ⟨digits, (left.dropWhile blank).skip flags⟩

theorem countText_suffix (flags : Flags) (cs : List Char) : (countText flags cs).2 <:+ cs :=
  (skip_suffix flags _).trans ((List.dropWhile_suffix _).trans ((gather_suffix _ flags _ _).trans
    (List.dropWhile_suffix _)))

theorem readCount_suffix (flags : Flags) (cs : List Char) : Leaves cs (readCount flags cs) := by
  rw [readCount_eq]
  exact .bind_value fun _ => .ok (countText_suffix flags cs)

theorem readCount_agrees (h : Continues cs cs') :
    Agrees Beside Never (readCount flags cs) (readCount flags cs') := by
  obtain ⟨digits, left⟩ := countText_beside flags h
  rw [readCount_eq, readCount_eq, digits]
  exact .bind_value fun _ => .ok ⟨rfl, left⟩

/-- The upper bound of a repetition, if one stands after the comma. -/
def mostAfterComma (flags : Flags) (cs : List Char) : Except Fault (Option Nat × List Char) :=
  match skip flags cs with
  | '\x7d' :: rest => .ok (none, '\x7d' :: rest)
  | rest => readCount flags rest >>= fun most => most.1.elim (.error .badRepetition) fun m => .ok (some m, most.2)

/-- The upper bound of a repetition, which is the lower one where no comma stands. -/
def readMost (flags : Flags) (least : Nat) (cs : List Char) : Except Fault (Option Nat × List Char) :=
  match cs with
  | ',' :: rest => mostAfterComma flags rest
  | cs => .ok (some least, cs)

/-- The brace after the bounds of a repetition. -/
def closeBounds (flags : Flags) (least : Nat) (most : Option Nat) (cs : List Char) :
    Except Fault ((Nat × Option Nat) × List Char) :=
  match cs with
  | '\x7d' :: rest =>
    if most.any (· < least) then .error .badRepetition else .ok ((least, most), skipLazy (skip flags rest))
  | _ => .error .badRepetition

variable {rest left : List Char}

theorem mostAfterComma_none (eq : skip flags rest = '\x7d' :: left) :
    mostAfterComma flags rest = .ok (none, '\x7d' :: left) := by
  rw [mostAfterComma, eq]
  rfl

theorem mostAfterComma_some (count : ∀ left, skip flags rest ≠ '\x7d' :: left) : mostAfterComma flags rest =
    readCount flags (skip flags rest) >>= fun most =>
      most.1.elim (.error .badRepetition) fun m => .ok (some m, most.2) := by
  unfold mostAfterComma
  split
  case h_1 eq => exact absurd eq (count _)
  case h_2 => rfl

theorem readMost_plain (least : Nat) (other : ∀ rest, cs ≠ ',' :: rest) :
    readMost flags least cs = .ok (some least, cs) := by
  unfold readMost
  split
  case h_1 => exact absurd rfl (other _)
  case h_2 => rfl

theorem closeBounds_closed (flags : Flags) (least : Nat) (most : Option Nat) (rest : List Char) :
    closeBounds flags least most ('\x7d' :: rest) =
      if most.any (· < least) then .error .badRepetition else .ok ((least, most), skipLazy (skip flags rest)) := rfl

theorem closeBounds_open (least : Nat) (most : Option Nat) (other : ∀ rest, cs ≠ '\x7d' :: rest) :
    closeBounds flags least most cs = .error .badRepetition := by
  unfold closeBounds
  split
  case h_1 => exact absurd rfl (other _)
  case h_2 => rfl

theorem readBounds_eq (flags : Flags) (cs : List Char) : readBounds flags cs =
    readCount flags (skip flags cs) >>= fun count => count.1.elim (.error .badRepetition) fun least =>
      readMost flags least count.2 >>= fun most => closeBounds flags least most.1 most.2 := by
  unfold readBounds
  refine bind_congr fun count => ?_
  obtain ⟨count, rest⟩ := count
  cases count with
  | none => rfl
  | some least =>
    dsimp only [Option.elim]
    split
    case h_1 rest =>
      change _ = mostAfterComma flags rest >>= fun most => closeBounds flags least most.1 most.2
      split
      case h_1 eq => rw [mostAfterComma_none eq]; rfl
      case h_2 other =>
        rw [mostAfterComma_some other, bind_assoc]
        refine bind_congr fun most => ?_
        obtain ⟨most, rest⟩ := most
        cases most <;> rfl
    case h_2 other =>
      rw [readMost_plain least other]
      rfl

theorem readMost_agrees (least : Nat) (h : Continues cs cs') :
    Agrees Beside Never (readMost flags least cs) (readMost flags least cs') := by
  rcases h.head_cases (c := ',') (by decide) with ⟨rest, rest', rfl, rfl, tail⟩ | ⟨other, other'⟩
  · change Agrees Beside Never (mostAfterComma flags rest) (mostAfterComma flags rest')
    have skipped := tail.skip flags
    rcases skipped.head_cases (c := '\x7d') (by decide) with ⟨left, left', eq, eq', more⟩ | ⟨count, count'⟩
    · rw [mostAfterComma_none eq, mostAfterComma_none eq']
      exact .ok ⟨rfl, more.cons _⟩
    · rw [mostAfterComma_some count, mostAfterComma_some count']
      refine (readCount_agrees skipped).bind ?_ fun _ _ => False.elim
      rintro ⟨most, left⟩ ⟨_, left'⟩ ⟨rfl, more⟩
      cases most with
      | none => exact .error _ _
      | some m => exact .ok ⟨rfl, more⟩
  · rw [readMost_plain least other, readMost_plain least other']
    exact .ok ⟨rfl, h⟩

theorem closeBounds_agrees (least : Nat) (most : Option Nat) (h : Continues cs cs') :
    Agrees Beside Never (closeBounds flags least most cs) (closeBounds flags least most cs') := by
  rcases h.head_cases (c := '\x7d') (by decide) with ⟨rest, rest', rfl, rfl, tail⟩ | ⟨other, other'⟩
  · rw [closeBounds_closed, closeBounds_closed]
    split
    · exact .error _ _
    · exact .ok ⟨rfl, skipLazy_continues (tail.skip flags)⟩
  · rw [closeBounds_open least most other, closeBounds_open least most other']
    exact .error _ _

theorem readBounds_agrees (h : Continues cs cs') :
    Agrees Beside Never (readBounds flags cs) (readBounds flags cs') := by
  rw [readBounds_eq, readBounds_eq]
  refine (readCount_agrees (h.skip flags)).bind ?_ fun _ _ => False.elim
  rintro ⟨count, left⟩ ⟨_, left'⟩ ⟨rfl, more⟩
  cases count with
  | none => exact .error _ _
  | some least =>
    refine (readMost_agrees least more).bind ?_ fun _ _ => False.elim
    rintro ⟨most, left⟩ ⟨_, left'⟩ ⟨rfl, more⟩
    exact closeBounds_agrees least most more

theorem readMost_suffix (flags : Flags) (least : Nat) (cs : List Char) : Leaves cs (readMost flags least cs) := by
  by_cases comma : ∃ rest, cs = ',' :: rest
  case neg =>
    rw [readMost_plain least fun rest eq => comma ⟨rest, eq⟩]
    exact .ok List.suffix_rfl
  case pos =>
    obtain ⟨rest, rfl⟩ := comma
    have skipped := (skip_suffix flags rest).trans (List.suffix_cons ',' rest)
    change Leaves _ (mostAfterComma flags rest)
    by_cases unbounded : ∃ left, skip flags rest = '\x7d' :: left
    · obtain ⟨left, eq⟩ := unbounded
      rw [mostAfterComma_none eq]
      exact .ok (eq ▸ skipped)
    · rw [mostAfterComma_some fun left eq => unbounded ⟨left, eq⟩]
      refine .bind ((readCount_suffix flags _).trans skipped) fun most left shorter => ?_
      cases most with
      | none => exact .error _
      | some m => exact .ok shorter

theorem closeBounds_suffix (flags : Flags) (least : Nat) (most : Option Nat) (cs : List Char) :
    Leaves cs (closeBounds flags least most cs) := by
  by_cases closed : ∃ rest, cs = '\x7d' :: rest
  case neg =>
    rw [closeBounds_open least most fun rest eq => closed ⟨rest, eq⟩]
    exact .error _
  case pos =>
    obtain ⟨rest, rfl⟩ := closed
    rw [closeBounds_closed]
    split
    · exact .error _
    · exact .ok ((skipLazy_suffix _).trans ((skip_suffix flags rest).trans (List.suffix_cons _ rest)))

theorem readBounds_suffix (flags : Flags) (cs : List Char) : Leaves cs (readBounds flags cs) := by
  rw [readBounds_eq]
  refine .bind ((readCount_suffix flags _).trans (skip_suffix flags cs)) fun count rest shorter => ?_
  cases count with
  | none => exact .error _
  | some least =>
    exact Leaves.trans (.bind (readMost_suffix flags least rest) fun most left part =>
      (closeBounds_suffix flags least most left).trans part) shorter

end Repetitions

section Openings

variable {cs cs' : List Char} {f : Frame} {r : Reader}

/-- The reader within one more group, which opened before all that are open. -/
def Reader.under (r : Reader) (f : Frame) : Reader := { r with outer := r.outer ++ [f] }

theorem Reader.under_outer_ne_nil (r : Reader) (f : Frame) : (r.under f).outer ≠ [] :=
  List.append_ne_nil_of_right_ne_nil _ (List.cons_ne_nil f [])

/-- The reader of the second text is within one more group. -/
def Under (f : Frame) (a b : Reader × List Char) : Prop := b.1 = a.1.under f ∧ Continues a.2 b.2

/-- A group is open, and nothing follows that could close it: the parenthesis is gone, or a brace is about to be read
that begins no repetition. -/
def GroupLate (b : Reader × List Char) : Prop := b.1.outer ≠ [] ∧ (b.2 = ['$'] ∨ Hanging b.1.flags b.2)

/-- The flags, the character behind them and what is left are the same. -/
def BesideFlags (a b : Flags × Char × List Char) : Prop := a.1 = b.1 ∧ Beside a.2 b.2

theorem readFlags_agrees (flags : Flags) (value : Bool) (seen : List Char) (h : Continues cs cs') :
    Agrees BesideFlags (·.2.2 = ['$']) (readFlags flags value seen cs) (readFlags flags value seen cs') := by
  induction cs generalizing flags value seen cs' with
  | nil =>
    rcases h.nil_cases with rfl | rfl
    · exact .error _ _
    · refine .of_late _ fun b read => ?_
      rw [closing, readFlags, if_pos (.inr rfl)] at read
      split at read
      · contradiction
      · cases read
        rfl
  | cons c rest ih =>
    obtain ⟨rest', rfl, tail⟩ := h.cons_cases
    rw [readFlags, readFlags]
    split_ifs
    · exact .error _ _
    · exact .ok ⟨rfl, rfl, tail⟩
    · exact .error _ _
    · exact ih flags false _ tail
    · cases setFlag flags value c with
      | none => exact .error _ _
      | some flags => exact ih flags value _ tail

theorem readFlags_suffix {flags set : Flags} {value : Bool} {seen : List Char} {last : Char} {rest : List Char}
    (read : readFlags flags value seen cs = .ok (set, last, rest)) : rest <:+ cs := by
  induction cs generalizing flags value seen with
  | nil => contradiction
  | cons c cs ih =>
    have tail := List.suffix_cons c cs
    rw [readFlags] at read
    split_ifs at read
    · cases read
      exact tail
    · exact (ih read).trans tail
    · cases flag : setFlag flags value c with
      | none =>
        rw [flag] at read
        contradiction
      | some flags' =>
        rw [flag] at read
        exact (ih read).trans tail

/-- The name before a closing angle bracket, if it is one that no other group has. -/
def checkName (names : List String) (name : List Char) : Except Fault String :=
  match name with
  | [] => .error .badGroupName
  | first :: _ =>
    if (Unicode.isAlphabetic first || first == '_') && name.all isNameChar then
      if names.contains (String.ofList name) then .error (.duplicateGroupName (String.ofList name))
      else .ok (String.ofList name)
    else .error .badGroupName

theorem readGroupName_closed {names : List String} {name rest : List Char} (eq : cs.span (· ≠ '>') = (name, '>' :: rest)) :
    readGroupName names cs = (checkName names name).map fun name => (name, rest) := by
  unfold readGroupName checkName
  rw [eq]
  cases name with
  | nil => rfl
  | cons first more =>
    by_cases named : ((Unicode.isAlphabetic first || first == '_') && (first :: more).all isNameChar) = true
    · simp only [if_pos named]
      by_cases taken : names.contains (String.ofList (first :: more)) = true
      · simp only [if_pos taken]
        rfl
      · simp only [if_neg taken]
        rfl
    · simp only [if_neg named]
      rfl

theorem readGroupName_open {names : List String} (other : ∀ rest, (cs.span (· ≠ '>')).2 ≠ '>' :: rest) :
    readGroupName names cs = .error .badGroupName := by
  unfold readGroupName
  generalize cs.span (· ≠ '>') = found at other ⊢
  dsimp only
  split
  case h_1 eq => exact absurd eq (other _)
  case h_2 => rfl

theorem readGroupName_agrees (names : List String) (h : Continues cs cs') :
    Agrees Beside Never (readGroupName names cs) (readGroupName names cs') := by
  rcases span_cases (c := '>') (by decide) h with ⟨name, rest, rest', eq, eq', tail⟩ | ⟨bare, bare'⟩
  · rw [readGroupName_closed eq, readGroupName_closed eq']
    exact .bind_value fun _ => .ok ⟨rfl, tail⟩
  · rw [readGroupName_open (by rw [bare]; nofun), readGroupName_open (by rw [bare']; nofun)]
    exact .error _ _

theorem readNamedGroup_agrees (r : Reader) (f : Frame) (h : Continues cs cs') :
    Agrees (Under f) GroupLate (readNamedGroup r cs) (readNamedGroup (r.under f) cs') := by
  refine (readGroupName_agrees r.names h).bind ?_ fun _ _ => False.elim
  rintro ⟨name, rest⟩ ⟨_, rest'⟩ ⟨rfl, tail⟩
  exact .ok ⟨rfl, tail⟩

/-- A group with flags, or flags for the rest of the group that is open. -/
def readFlagGroup (r : Reader) (cs : List Char) : Except Fault (Reader × List Char) :=
  readFlags r.flags true [] cs >>= fun read =>
    if read.2.1 = ':' then .ok (r.openGroup false read.1, read.2.2)
    else .ok ({ r with flags := read.1 }.push ⟨.empty, 0, false⟩, read.2.2)

theorem readFlagGroup_agrees (r : Reader) (f : Frame) (h : Continues cs cs') :
    Agrees (Under f) GroupLate (readFlagGroup r cs) (readFlagGroup (r.under f) cs') := by
  refine (readFlags_agrees r.flags true [] h).bind ?_ ?_
  · rintro ⟨set, last, rest⟩ ⟨_, _, rest'⟩ ⟨rfl, rfl, tail⟩
    dsimp only
    split
    · exact .ok ⟨rfl, tail⟩
    · exact .ok ⟨rfl, tail⟩
  · rintro e ⟨set, last, rest⟩ dollar
    dsimp only at dollar ⊢
    split
    · exact .late e ⟨List.cons_ne_nil _ _, .inl dollar⟩
    · exact .late e ⟨r.under_outer_ne_nil f, .inl dollar⟩

/-- What follows a question mark at the front of a group. -/
def readMarkedGroup (r : Reader) (cs : List Char) : Except Fault (Reader × List Char) :=
  if cs.head? = some '=' ∨ cs.head? = some '!' then .error .lookAround
  else if cs.head? = some '<' then
    if cs.tail.head? = some '=' ∨ cs.tail.head? = some '!' then .error .lookAround else readNamedGroup r cs.tail
  else if cs.head? = some 'P' ∧ cs.tail.head? = some '<' then readNamedGroup r cs.tail.tail
  else readFlagGroup r cs

variable {rest : List Char}

theorem head?_ne_of {c : Char} (other : ∀ rest, cs = c :: rest → False) : cs.head? ≠ some c :=
  fun eq => (List.head?_eq_some_iff.mp eq).elim other

theorem readGroup_marked (eq : skip r.flags cs = '?' :: rest) : readGroup r cs = readMarkedGroup r rest := by
  rw [readGroup, eq]
  unfold readMarkedGroup
  split
  case h_1 eq => cases eq; rfl
  case h_2 eq => cases eq; rfl
  case h_3 eq => cases eq; rfl
  case h_4 eq => cases eq; rfl
  case h_5 eq => cases eq; rfl
  case h_6 ahead behind eq =>
    cases eq
    rw [if_neg (by simp), if_pos List.head?_cons, List.tail_cons,
      if_neg (not_or.mpr ⟨head?_ne_of ahead, head?_ne_of behind⟩)]
  case h_7 equal bang ahead behind named angle eq =>
    cases eq
    have unnamed : ¬(rest.head? = some 'P' ∧ rest.tail.head? = some '<') := by
      rintro ⟨p, mark⟩
      obtain ⟨rest, rfl⟩ := List.head?_eq_some_iff.mp p
      obtain ⟨more, rfl⟩ := List.head?_eq_some_iff.mp mark
      exact named more rfl
    rw [if_neg (not_or.mpr ⟨head?_ne_of equal, head?_ne_of bang⟩), if_neg (head?_ne_of angle), if_neg unnamed]
    exact bind_congr fun read => rfl
  case h_8 eq => exact absurd rfl (eq rest)

theorem readGroup_plain (other : ∀ rest, skip r.flags cs ≠ '?' :: rest) :
    readGroup r cs = .ok (r.openGroup true r.flags, skip r.flags cs) := by
  rw [readGroup]
  split
  case h_8 => rfl
  all_goals
    rename_i eq
    exact absurd eq (other _)

theorem readMarkedGroup_agrees (r : Reader) (f : Frame) (h : Continues cs cs') :
    Agrees (Under f) GroupLate (readMarkedGroup r cs) (readMarkedGroup (r.under f) cs') := by
  have front {c : Char} (other : c ≠ ')') {cs cs' : List Char} (h : Continues cs cs') :
      (cs.head? = some c) = (cs'.head? = some c) := propext (h.head?_iff other)
  have after {c : Char} (other : c ≠ ')') {cs cs' : List Char} (h : Continues cs cs') (here : cs.head? = some c) :
      Continues cs.tail cs'.tail := by
    rcases h.head_cases other with ⟨rest, rest', rfl, rfl, tail⟩ | ⟨none, _⟩
    · exact tail
    · exact absurd here (head?_ne_of none)
  unfold readMarkedGroup
  simp only [← front (c := '=') (by decide) h, ← front (c := '!') (by decide) h, ← front (c := '<') (by decide) h,
    ← front (c := 'P') (by decide) h]
  by_cases around : cs.head? = some '=' ∨ cs.head? = some '!'
  · rw [if_pos around, if_pos around]
    exact .error _ _
  · rw [if_neg around, if_neg around]
    by_cases angle : cs.head? = some '<'
    · have tail := after (by decide) h angle
      rw [if_pos angle, if_pos angle]
      simp only [← front (c := '=') (by decide) tail, ← front (c := '!') (by decide) tail]
      split
      · exact .error _ _
      · exact readNamedGroup_agrees r f tail
    · rw [if_neg angle, if_neg angle]
      by_cases p : cs.head? = some 'P'
      · have tail := after (by decide) h p
        simp only [← front (c := '<') (by decide) tail]
        split
        case isTrue marked => exact readNamedGroup_agrees r f (after (by decide) tail marked.2)
        case isFalse => exact readFlagGroup_agrees r f h
      · rw [if_neg fun marked => p marked.1, if_neg fun marked => p marked.1]
        exact readFlagGroup_agrees r f h

theorem readGroup_agrees (r : Reader) (f : Frame) (h : Continues cs cs') :
    Agrees (Under f) GroupLate (readGroup r cs) (readGroup (r.under f) cs') := by
  have skipped := h.skip r.flags
  rcases skipped.head_cases (c := '?') (by decide) with ⟨rest, rest', eq, eq', tail⟩ | ⟨other, other'⟩
  · rw [readGroup_marked eq, readGroup_marked (r := r.under f) eq']
    exact readMarkedGroup_agrees r f tail
  · rw [readGroup_plain other, readGroup_plain (r := r.under f) other']
    exact .ok ⟨rfl, skipped⟩

theorem readGroupName_suffix (names : List String) (cs : List Char) : Leaves cs (readGroupName names cs) := by
  by_cases closed : ∃ rest, (cs.span (· ≠ '>')).2 = '>' :: rest
  · obtain ⟨rest, closed⟩ := closed
    have shorter := span_suffix (· ≠ '>') cs
    rw [closed] at shorter
    rw [readGroupName_closed (Prod.ext rfl closed)]
    exact .bind_value fun _ => .ok ((List.suffix_cons '>' rest).trans shorter)
  · rw [readGroupName_open fun rest eq => closed ⟨rest, eq⟩]
    exact .error _

theorem readNamedGroup_suffix (r : Reader) (cs : List Char) : Leaves cs (readNamedGroup r cs) :=
  .bind (readGroupName_suffix r.names cs) fun _ _ shorter => .ok shorter

theorem readFlagGroup_suffix (r : Reader) (cs : List Char) : Leaves cs (readFlagGroup r cs) := by
  unfold readFlagGroup
  cases read : readFlags r.flags true [] cs with
  | error e => exact .error e
  | ok found =>
    change Leaves cs (if found.2.1 = ':' then _ else _)
    split
    · exact .ok (readFlags_suffix read)
    · exact .ok (readFlags_suffix read)

theorem readMarkedGroup_suffix (r : Reader) (cs : List Char) : Leaves cs (readMarkedGroup r cs) := by
  have tail := List.tail_suffix cs
  unfold readMarkedGroup
  split_ifs
  · exact .error _
  · exact .error _
  · exact (readNamedGroup_suffix r cs.tail).trans tail
  · exact (readNamedGroup_suffix r cs.tail.tail).trans ((List.tail_suffix _).trans tail)
  · exact readFlagGroup_suffix r cs

theorem readGroup_suffix (r : Reader) (cs : List Char) : Leaves cs (readGroup r cs) := by
  have skipped := skip_suffix r.flags cs
  by_cases marked : ∃ rest, skip r.flags cs = '?' :: rest
  · obtain ⟨rest, eq⟩ := marked
    rw [readGroup_marked eq]
    rw [eq] at skipped
    exact (readMarkedGroup_suffix r rest).trans ((List.suffix_cons '?' rest).trans skipped)
  · rw [readGroup_plain fun rest eq => marked ⟨rest, eq⟩]
    exact .ok skipped

end Openings
end DocQuery.Regex
