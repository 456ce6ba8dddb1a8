import DocQuery.Pattern.Basic
import DocQuery.Proofs.Regex.Groups
import DocQuery.Proofs.Regex.Spans

/-! Expressions for all of a text, which are read with a group around them. What is read so is the expression itself
between the two ends of the text, unless a parenthesis of its own closes the group. -/
namespace DocQuery.Regex

section Tokens

variable {cs cs' : List Char} {r : Reader} {f : Frame}

theorem repeatLast_under (r : Reader) (f : Frame) (least : Nat) (most : Option Nat) :
    (r.under f).repeatLast least most = (r.repeatLast least most).map (·.under f) := by
  obtain ⟨flags, names, branches, items, outer⟩ := r
  cases items with
  | nil => rfl
  | cons item items =>
    cases repeatable : item.repeatable <;> simp [Reader.repeatLast, Reader.under, repeatable, Except.map]

theorem closeGroup_under (f : Frame) (inside : r.outer ≠ []) :
    (r.under f).closeGroup = r.closeGroup.map (·.under f) := by
  obtain ⟨flags, names, branches, items, outer⟩ := r
  cases outer with
  | nil => contradiction
  | cons frame outer => rfl

/-- A step that changes the reader only, and not by the groups around it. -/
theorem Agrees.of_under {x y : Except Fault Reader} {rest rest' : List Char} (same : y = x.map (·.under f))
    (tail : Continues rest rest') :
    Agrees (Under f) GroupLate (do return (← x, rest)) (do return (← y, rest')) := by
  subst same
  cases x with
  | error e => exact .error e e
  | ok r => exact .ok ⟨rfl, tail⟩

/-- A token of the text is one of the text with the closing behind it, unless it ends what only the second one opened. -/
theorem readToken_agrees {c : Char} (inside : c = ')' → r.outer ≠ []) (h : Continues cs cs') :
    Agrees (Under f) GroupLate (readToken r c cs) (readToken (r.under f) c cs') := by
  unfold readToken
  split
  · exact readGroup_agrees r f h
  · exact .of_under (closeGroup_under f (inside rfl)) h
  · exact .ok ⟨rfl, h⟩
  · exact .of_under (repeatLast_under r f 0 (some 1)) (skipLazy_continues h)
  · exact .of_under (repeatLast_under r f 0 none) (skipLazy_continues h)
  · exact .of_under (repeatLast_under r f 1 none) (skipLazy_continues h)
  · refine (readBounds_agrees h).bind ?_ fun _ _ => False.elim
    rintro ⟨⟨least, most⟩, rest⟩ ⟨_, rest'⟩ ⟨rfl, tail⟩
    exact .of_under (repeatLast_under r f least most) tail
  · refine (readClass_agrees h).bind ?_ fun _ _ => False.elim
    rintro ⟨part, rest⟩ ⟨_, rest'⟩ ⟨rfl, tail⟩
    exact .ok ⟨rfl, tail⟩
  · exact .bind_value fun _ => .ok ⟨rfl, h⟩
  · exact .ok ⟨rfl, h⟩
  · exact .ok ⟨rfl, h⟩
  · refine (readEscape_agrees h).bind ?_ ?_
    · rintro ⟨atom, rest⟩ ⟨_, rest'⟩ ⟨rfl, tail⟩
      exact .bind_value fun _ => .ok ⟨rfl, tail⟩
    · -- The escape sequence took part of the closing, so the group around the text is still open.
      rintro e ⟨atom, rest⟩ late
      refine .of_late e ?_
      rintro ⟨r', rest'⟩ read
      dsimp only at read
      cases leaf : atomRegex r.flags atom with
      | error e' =>
        rw [Reader.under, leaf] at read
        contradiction
      | ok a =>
        rw [Reader.under, leaf] at read
        cases read
        exact ⟨r.under_outer_ne_nil f, late.imp id And.right⟩
  · exact .bind_value fun _ => .ok ⟨rfl, h⟩

theorem readToken_suffix (r : Reader) (c : Char) (cs : List Char) : Leaves cs (readToken r c cs) := by
  have here := List.suffix_refl cs
  have lazy := skipLazy_suffix cs
  unfold readToken
  split
  · exact readGroup_suffix r cs
  · exact .bind_value fun _ => .ok here
  · exact .ok here
  · exact .bind_value fun _ => .ok lazy
  · exact .bind_value fun _ => .ok lazy
  · exact .bind_value fun _ => .ok lazy
  · exact .bind (readBounds_suffix r.flags cs) fun _ _ shorter => .bind_value fun _ => .ok shorter
  · exact .bind (readClass_suffix r.flags cs) fun _ _ shorter => .ok shorter
  · exact .bind_value fun _ => .ok here
  · exact .ok here
  · exact .ok here
  · exact .bind (readEscape_suffix r.flags cs) fun _ _ shorter => .bind_value fun _ => .ok shorter
  · exact .bind_value fun _ => .ok here

variable {m n : Nat} {c : Char} {rest : List Char}

theorem readTokens_nil (n : Nat) (eq : skip r.flags cs = []) : readTokens (n + 1) r cs = .ok r := by
  rw [readTokens, eq]

theorem readTokens_cons (n : Nat) (eq : skip r.flags cs = c :: rest) :
    readTokens (n + 1) r cs = readToken r c rest >>= fun read => readTokens n read.1 read.2 := by
  rw [readTokens, eq]

theorem readBounds_closing (hanging : skip r.flags cs = closing) : readBounds r.flags cs = .error .badRepetition := by
  have filled : closing.dropWhile Unicode.isBlank = closing := List.dropWhile_cons_of_neg (by decide +kernel)
  have none : countText r.flags closing = ([], closing) := by
    have digits : gather Char.isDigit r.flags (closing.length + 1) closing = ([], closing) := by
      simp [closing, gather, Char.isDigit]
    rw [countText, filled, digits, filled, skip_closing]
  rw [readBounds_eq, hanging, readCount_eq, none]
  rfl

/-- The reader with the end of the line asked for. -/
def Reader.ended (r : Reader) : Reader := r.push (.leaf (.assert (lineEnd r.flags)))

/-- A group that nothing can close any more stays open. -/
theorem readTokens_late {r' : Reader} (late : GroupLate (r, cs)) (enough : cs.length < n)
    (read : readTokens n r cs = .ok r') : r'.outer ≠ [] := by
  obtain ⟨n, rfl⟩ := Nat.exists_eq_add_one_of_ne_zero (Nat.ne_zero_of_lt enough)
  obtain ⟨within, rfl | ⟨rest, rfl, hanging⟩⟩ := late
  · obtain ⟨n, rfl⟩ := Nat.exists_eq_add_one_of_ne_zero (Nat.ne_zero_of_lt (Nat.lt_of_succ_lt_succ enough))
    rw [readTokens_cons (n + 1) (skip_dollar r.flags)] at read
    change readTokens (n + 1) r.ended [] = .ok r' at read
    rw [readTokens_nil n (skip_nil _)] at read
    cases read
    exact within
  · have refused : readToken r '\x7b' rest = .error .badRepetition := by
      simp only [readToken, readBounds_closing hanging]
      rfl
    rw [readTokens_cons n (skip_of_stop (by decide +kernel) (by decide) r.flags rest), refused] at read
    contradiction

/-- What the second text leads to: the same within the group, or what follows once the group was closed. -/
def Ends (f : Frame) (a b : Reader) : Prop :=
  b = a.under f ∨ ∃ closed, (a.under f).closeGroup = .ok closed ∧ b = closed.ended

/-- The closing ends the group around a text and asks for the end of the line. -/
theorem readTokens_closing (added : skip r.flags cs = closing) (enough : cs.length < n) :
    ∃ closed, (r.under f).closeGroup = .ok closed ∧ readTokens n (r.under f) cs = .ok closed.ended := by
  have closes : ∃ closed, (r.under f).closeGroup = .ok closed := by
    cases outer : r.outer <;> simp [Reader.closeGroup, Reader.under, outer]
  obtain ⟨closed, closes⟩ := closes
  have room : 2 ≤ cs.length := by simpa [added, closing] using (skip_suffix r.flags cs).length_le
  obtain ⟨n, rfl⟩ := Nat.exists_eq_add_of_le' (show 3 ≤ n by omega)
  refine ⟨closed, closes, ?_⟩
  rw [readTokens_cons (r := r.under f) (n + 2) added]
  change (do return (← (r.under f).closeGroup, ['$'])) >>= _ = _
  rw [closes]
  change readTokens (n + 2) closed ['$'] = _
  rw [readTokens_cons (n + 1) (skip_dollar closed.flags)]
  exact readTokens_nil n (skip_nil closed.flags)

/-- Tokens are read alike until the first text is over, and then the group around the second one ends. A parenthesis
that nothing opened in the first text would end it early. -/
theorem readTokens_agrees (enough : cs.length < n) (enough' : cs'.length < m) (h : Continues cs cs')
    (opened : readTokens n r cs ≠ .error .unopenedGroup) :
    Agrees (Ends f) (·.outer ≠ []) (readTokens n r cs) (readTokens m (r.under f) cs') := by
  induction n generalizing m r cs cs' with
  | zero => contradiction
  | succ n ih =>
    obtain ⟨m, rfl⟩ := Nat.exists_eq_add_one_of_ne_zero (Nat.ne_zero_of_lt enough')
    have skipped := h.skip r.flags
    have shorter := (skip_suffix r.flags cs).length_le
    have shorter' := (skip_suffix r.flags cs').length_le
    cases eq : skip r.flags cs with
    | nil =>
      rw [eq] at skipped
      rw [readTokens_nil n eq]
      rcases skipped.nil_cases with bare | added
      · rw [readTokens_nil (r := r.under f) m bare]
        exact .ok (.inl rfl)
      · obtain ⟨closed, closes, read⟩ := readTokens_closing (r := r) (f := f) added enough'
        rw [read]
        exact .ok (.inr ⟨closed, closes, rfl⟩)
    | cons c rest =>
      rw [eq] at skipped shorter
      obtain ⟨rest', eq', tail⟩ := skipped.cons_cases
      rw [eq'] at shorter'
      rw [List.length_cons] at shorter shorter'
      rw [readTokens_cons n eq] at opened ⊢
      rw [readTokens_cons (r := r.under f) m eq']
      -- With no group open a closing parenthesis is refused alone, but it ends the group around the second text.
      have inside : c = ')' → r.outer ≠ [] := by
        rintro rfl none
        refine opened ?_
        change (r.closeGroup >>= fun r => .ok (r, rest)) >>= _ = _
        rw [Reader.closeGroup, none]
        rfl
      have leaves := readToken_suffix r c rest
      have leaves' := readToken_suffix (r.under f) c rest'
      have agrees := readToken_agrees (f := f) inside tail
      generalize readToken r c rest = x at opened leaves agrees ⊢
      generalize readToken (r.under f) c rest' = y at leaves' agrees ⊢
      cases agrees with
      | @ok a b same =>
        obtain ⟨r₁, left⟩ := a
        obtain ⟨_, left'⟩ := b
        obtain ⟨rfl, more⟩ := same
        have part := (leaves r₁ left rfl).length_le
        have part' := (leaves' _ left' rfl).length_le
        exact ih (show left.length < n by omega) (show left'.length < m by omega) more opened
      | error e e' => exact .error e e'
      | @late e b late =>
        have part := (leaves' b.1 b.2 rfl).length_le
        exact .of_late e fun r' read => readTokens_late late (by omega) read

end Tokens

section Expressions

variable {cs : List Char}

/-- The expression of a reader that has come to the end. -/
def finish (r : Reader) : Except Fault Regex :=
  if !r.outer.isEmpty then .error .unclosedGroup
  else if maximalNesting < r.body.depth then .error .nestedTooDeep
  else .ok r.body.regex

theorem parse_eq (cs : List Char) : parse cs = readTokens (cs.length + 1) {} cs >>= finish := by
  refine bind_congr fun r => ?_
  unfold finish
  split_ifs <;> rfl

theorem finish_open {r : Reader} (inside : r.outer ≠ []) : finish r = .error .unclosedGroup := by
  simp [finish, inside]

/-- The group that is put around an expression for all of a text, behind the start of the text. -/
def wholeFrame : Frame := ⟨false, {}, [], [.leaf (.assert .textStart)]⟩

theorem readTokens_prefix (n : Nat) (cs : List Char) : readTokens (n + 2) {} ("^(?:".toList ++ cs) =
    readTokens n (Reader.under {} wholeFrame) cs := rfl

theorem parse_wholeText_eq (cs : List Char) : parse (Pattern.wholeText cs) =
    readTokens (cs.length + 5) (Reader.under {} wholeFrame) (cs ++ closing) >>= finish := by
  have length : (Pattern.wholeText cs).length + 1 = cs.length + 5 + 2 := by simp [Pattern.wholeText]
  rw [parse_eq, length, Pattern.wholeText, List.append_assoc, readTokens_prefix]
  rfl

variable {r closed : Reader}

theorem finish_ended_open (inside : r.outer ≠ []) (closes : (r.under wholeFrame).closeGroup = .ok closed) :
    finish closed.ended = .error .unclosedGroup := by
  obtain ⟨flags, names, branches, items, outer⟩ := r
  cases outer with
  | nil => contradiction
  | cons frame outer =>
    cases closes
    exact finish_open (Reader.under_outer_ne_nil ⟨_, _, _, _, outer⟩ wholeFrame)

/-- The group around the whole nests it deeper by two. -/
theorem finish_ended (outermost : r.outer = []) (closes : (r.under wholeFrame).closeGroup = .ok closed) :
    finish closed.ended =
      if maximalNesting < r.body.depth + 2 then .error .nestedTooDeep else .ok (whole r.body.regex) := by
  obtain ⟨flags, names, branches, items, outer⟩ := r
  subst outermost
  cases closes
  generalize alone : Reader.body ⟨flags, names, branches, items, []⟩ = body
  have depth : deepest [.leaf (.assert .textEnd), ⟨body.regex, body.depth + 1, true⟩, .leaf (.assert .textStart)] + 1 =
      body.depth + 2 := by simp [deepest, Item.leaf]
  rw [← depth, ← alone]
  rfl

/-- What is read of a text alone, and what is read of it for all of a text: the same between the ends of the text,
unless a comment takes in the end of the group around it, or that group nests it too deep. -/
inductive Enclosed : Except Fault Regex → Except Fault Regex → Prop
  | ok (a : Regex) : Enclosed (.ok a) (.ok (whole a))
  | unclosed (a : Regex) : Enclosed (.ok a) (.error .unclosedGroup)
  | tooDeep (a : Regex) : Enclosed (.ok a) (.error .nestedTooDeep)
  | error (e e' : Fault) : Enclosed (.error e) (.error e')

theorem finish_enclosed {r' : Reader} (ends : Ends wholeFrame r r') : Enclosed (finish r) (finish r') := by
  by_cases outermost : r.outer = []
  case neg =>
    rw [finish_open outermost]
    rcases ends with rfl | ⟨closed, closes, rfl⟩
    · rw [finish_open (r.under_outer_ne_nil wholeFrame)]
      exact .error _ _
    · rw [finish_ended_open outermost closes]
      exact .error _ _
  case pos =>
    have alone : finish r = if maximalNesting < r.body.depth then .error .nestedTooDeep else .ok r.body.regex := by
      rw [finish, outermost]
      rfl
    rw [alone]
    rcases ends with rfl | ⟨closed, closes, rfl⟩
    · rw [finish_open (r.under_outer_ne_nil wholeFrame)]
      split
      · exact .error _ _
      · exact .unclosed _
    · rw [finish_ended outermost closes]
      by_cases deep : maximalNesting < r.body.depth
      · rw [if_pos deep, if_pos (by omega)]
        exact .error _ _
      · rw [if_neg deep]
        split
        · exact .tooDeep _
        · exact .ok _

/-- The text of an expression can be put between the ends of a text if no parenthesis of its own closes too much. -/
theorem parse_wholeText (opened : parse cs ≠ .error .unopenedGroup) :
    Enclosed (parse cs) (parse (Pattern.wholeText cs)) := by
  rw [parse_wholeText_eq, parse_eq]
  have agrees : Agrees (Ends wholeFrame) (·.outer ≠ []) (readTokens (cs.length + 1) {} cs)
      (readTokens (cs.length + 5) (Reader.under {} wholeFrame) (cs ++ closing)) := by
    refine readTokens_agrees (Nat.lt_succ_self _) (by simp [closing]) (.closed cs) fun refused => opened ?_
    rw [parse_eq, refused]
    rfl
  generalize readTokens (cs.length + 1) {} cs = x at agrees ⊢
  generalize readTokens (cs.length + 5) (Reader.under {} wholeFrame) (cs ++ closing) = y at agrees ⊢
  cases agrees with
  | ok ends => exact finish_enclosed ends
  | error e e' => exact .error e e'
  | @late e r' inside =>
    change Enclosed (.error e) (finish r')
    rw [finish_open inside]
    exact .error _ _

end Expressions
end DocQuery.Regex
