import DocQuery.Proofs.Regex.Locality

/-! Escape sequences at the end of a text. They are read alike with the closing behind them, but for a lone backslash,
which takes the parenthesis, and for a brace after the edge of a word, which is left where it stands. -/
namespace DocQuery.Regex

section Braces

variable {flags : Flags} {cs cs' : List Char} {m n : Nat}

theorem readBraced_suffix {inside rest : List Char} (read : readBraced flags n cs = some (inside, rest)) :
    rest <:+ cs := by
  induction n generalizing cs inside with
  | zero => contradiction
  | succ n ih =>
    have skipped := skip_suffix flags cs
    rw [readBraced] at read
    split at read
    · contradiction
    · rename_i c cs eq
      rw [eq] at skipped
      have tail := (List.suffix_cons c cs).trans skipped
      split at read
      · cases read
        exact tail
      · obtain ⟨⟨inside, rest⟩, found, same⟩ := Option.map_eq_some_iff.mp read
        cases same
        exact (ih found).trans tail

theorem readBraced_closing (flags : Flags) (n : Nat) : readBraced flags n closing = none := by
  have nothing (n : Nat) : readBraced flags n [] = none := by cases n <;> simp [readBraced]
  have dollar (n : Nat) : readBraced flags n ['$'] = none := by cases n <;> simp [readBraced, nothing]
  cases n with
  | zero => rfl
  | succ n =>
    rw [readBraced, skip_closing]
    simp [closing, dollar]

theorem readBraced_agrees (h : Continues cs cs') (enough : cs.length < n) (enough' : cs'.length < m) :
    Option.Rel Beside (readBraced flags n cs) (readBraced flags m cs') := by
  induction n generalizing m cs cs' with
  | zero => contradiction
  | succ n ih =>
    obtain ⟨m, rfl⟩ := Nat.exists_eq_add_one_of_ne_zero (Nat.ne_zero_of_lt enough')
    have skipped := h.skip flags
    have shorter := (skip_suffix flags cs).length_le
    have shorter' := (skip_suffix flags cs').length_le
    cases eq : skip flags cs with
    | nil =>
      rw [eq] at skipped
      rw [readBraced, eq]
      rcases skipped.nil_cases with bare | added
      · rw [readBraced, bare]
        exact .none
      · have none_closed := readBraced_closing flags (m + 1)
        rw [readBraced, skip_closing] at none_closed
        rw [readBraced, added, none_closed]
        exact .none
    | cons c rest =>
      rw [eq] at skipped shorter
      obtain ⟨rest', eq', tail⟩ := skipped.cons_cases
      rw [eq'] at shorter'
      rw [readBraced, readBraced, eq, eq']
      rw [List.length_cons] at shorter shorter'
      by_cases brace : c = '\x7d'
      · simp only [if_pos brace]
        exact .some ⟨rfl, tail⟩
      · simp only [if_neg brace]
        have inside := ih (m := m) tail (by omega) (by omega)
        generalize readBraced flags n rest = x at inside ⊢
        generalize readBraced flags m rest' = y at inside ⊢
        cases inside with
        | none => exact .none
        | some same => exact .some ⟨congrArg (c :: ·) same.1, same.2⟩

end Braces

section Digits

variable {flags : Flags} {cs cs' : List Char} {width : Nat}

theorem readHexDigits_suffix (flags : Flags) (width : Nat) (cs : List Char) :
    Leaves cs (readHexDigits flags width cs) := by
  induction width generalizing cs with
  | zero => exact .ok List.suffix_rfl
  | succ width ih =>
    have skipped := skip_suffix flags cs
    rw [readHexDigits]
    split
    · exact .error _
    · rename_i c rest eq
      rw [eq] at skipped
      exact Leaves.trans (.bind (ih rest) fun _ _ left => .ok left) ((List.suffix_cons c rest).trans skipped)

theorem hexChar_refused {digits : List Char} (none_such : ')' ∈ digits) : ∃ e, hexChar digits = .error e := by
  have unread : digits.mapM hexDigit? = none := by
    induction digits with
    | nil => contradiction
    | cons c digits ih =>
      rw [List.mapM_cons]
      rcases List.mem_cons.mp none_such with rfl | later
      · rfl
      · rw [ih later]
        cases hexDigit? c <;> rfl
  exact ⟨.badEscape, by rw [hexChar, unread]; rfl⟩

/-- A closing parenthesis that is taken for a digit is none. -/
theorem readHexDigits_agrees (h : Continues cs cs') :
    Agrees Beside (')' ∈ ·.1) (readHexDigits flags width cs) (readHexDigits flags width cs') := by
  induction width generalizing cs cs' with
  | zero => exact .ok ⟨rfl, h⟩
  | succ width ih =>
    have skipped := h.skip flags
    rw [readHexDigits, readHexDigits]
    cases eq : skip flags cs with
    | nil =>
      rw [eq] at skipped
      rcases skipped.nil_cases with bare | added
      · rw [bare]
        exact .error _ _
      · rw [added]
        refine .of_late _ fun b read => ?_
        change (readHexDigits flags width ['$'] >>= fun digits => .ok (')' :: digits.1, digits.2)) = .ok b at read
        cases more : readHexDigits flags width ['$'] with
        | error e =>
          rw [more] at read
          contradiction
        | ok digits =>
          rw [more] at read
          cases read
          exact List.mem_cons_self
    | cons c rest =>
      rw [eq] at skipped
      obtain ⟨rest', eq', tail⟩ := skipped.cons_cases
      rw [eq']
      refine (ih tail).bind ?_ ?_
      · rintro a b ⟨same, left⟩
        exact .ok ⟨congrArg (c :: ·) same, left⟩
      · exact fun e b none_such => .late e (List.mem_cons_of_mem c none_such)

end Digits

section Escapes

variable {flags : Flags} {cs cs' : List Char}

theorem readHex_suffix (flags : Flags) (width : Nat) (cs : List Char) : Leaves cs (readHex flags width cs) := by
  have skipped := skip_suffix flags cs
  rw [readHex]
  split
  · rename_i rest eq
    rw [eq] at skipped
    split
    · exact .error _
    · rename_i digits left read
      have tail := (readBraced_suffix read).trans ((List.suffix_cons _ rest).trans skipped)
      exact .bind_value fun _ => .ok ((skip_suffix flags left).trans tail)
  · exact Leaves.trans (.bind (readHexDigits_suffix flags width _) fun digits left shorter =>
      .bind_value fun _ => .ok ((skip_suffix flags left).trans shorter)) skipped

theorem readHex_braced {rest : List Char} (width : Nat) (braced : skip flags cs = '\x7b' :: rest) :
    readHex flags width cs = (readBraced flags (rest.length + 1) rest).elim (.error .badEscape) fun found => do
      return (.char (← hexChar found.1) false, skip flags found.2) := by
  rw [readHex, braced]
  cases eq : readBraced flags (rest.length + 1) rest with
  | none => simp only [eq]; rfl
  | some found => simp only [eq]; rfl

theorem readHex_digits (width : Nat) (digits : ∀ rest, skip flags cs ≠ '\x7b' :: rest) :
    readHex flags width cs = do
      let found ← readHexDigits flags width (skip flags cs)
      return (.char (← hexChar found.1) (width == 2), skip flags found.2) := by
  rw [readHex]
  split
  case h_1 eq => exact absurd eq (digits _)
  case h_2 => rfl

theorem readHex_agrees (width : Nat) (h : Continues cs cs') :
    Agrees Beside Never (readHex flags width cs) (readHex flags width cs') := by
  have skipped := h.skip flags
  rcases skipped.head_cases (c := '\x7b') (by decide) with ⟨rest, rest', eq, eq', tail⟩ | ⟨digits, digits'⟩
  · rw [readHex_braced width eq, readHex_braced width eq']
    refine .elim (readBraced_agrees tail (Nat.lt_succ_self _) (Nat.lt_succ_self _)) _ fun digits rest rest' left => ?_
    exact .bind_value fun _ => .ok ⟨rfl, left.skip flags⟩
  · rw [readHex_digits width digits, readHex_digits width digits']
    refine (readHexDigits_agrees skipped).bind ?_ ?_
    · rintro ⟨digits, rest⟩ ⟨_, rest'⟩ ⟨rfl, left⟩
      exact .bind_value fun _ => .ok ⟨rfl, left.skip flags⟩
    · rintro e ⟨digits, rest⟩ none_such
      obtain ⟨e', refused⟩ := hexChar_refused none_such
      simp only [refused]
      exact .error e e'

theorem readProperty_braced {rest : List Char} (negated : Bool) (braced : skip flags cs = '\x7b' :: rest) :
    readProperty flags negated cs = (readBraced flags (rest.length + 1) rest).elim (.error .badEscape) fun found => do
      return (.chars (← propertyClass flags negated found.1), found.2) := by
  rw [readProperty, braced]
  cases eq : readBraced flags (rest.length + 1) rest with
  | none => simp only [eq]; rfl
  | some found => simp only [eq]; rfl

theorem readProperty_letter {c : Char} {rest : List Char} (negated : Bool) (letter : skip flags cs = c :: rest)
    (braced : c ≠ '\x7b') (escaped : c ≠ '\\') : readProperty flags negated cs = do
      return (.chars (← propertyClass flags negated [c]), skip flags rest) := by
  rw [readProperty, letter]
  split
  case h_1 => contradiction
  case h_2 eq => exact absurd (List.cons.inj eq).1 braced
  case h_3 eq => exact absurd (List.cons.inj eq).1 escaped
  case h_4 eq =>
    cases eq
    rfl

theorem readProperty_suffix (flags : Flags) (negated : Bool) (cs : List Char) :
    Leaves cs (readProperty flags negated cs) := by
  have skipped := skip_suffix flags cs
  rw [readProperty]
  split
  · exact .error _
  · rename_i rest eq
    rw [eq] at skipped
    split
    · exact .error _
    · rename_i name left read
      exact .bind_value fun _ => .ok ((readBraced_suffix read).trans ((List.suffix_cons _ rest).trans skipped))
  · exact .error _
  · rename_i c rest _ _ eq
    rw [eq] at skipped
    exact .bind_value fun _ => .ok ((skip_suffix flags rest).trans ((List.suffix_cons c rest).trans skipped))

/-- No property has a closing parenthesis for its name. -/
theorem propertyClass_closing (flags : Flags) (negated : Bool) : ∃ e, propertyClass flags negated [')'] = .error e := by
  unfold propertyClass
  split
  · exact ⟨_, rfl⟩
  · have unknown : namedSet? [')'] = (none, false) := rfl
    rw [unknown]
    exact ⟨_, rfl⟩

theorem readProperty_agrees (negated : Bool) (h : Continues cs cs') :
    Agrees Beside Never (readProperty flags negated cs) (readProperty flags negated cs') := by
  have skipped := h.skip flags
  cases eq : skip flags cs with
  | nil =>
    rw [eq] at skipped
    have failed : readProperty flags negated cs = .error .badEscape := by rw [readProperty, eq]
    rw [failed]
    refine .of_refused _ ?_
    rcases skipped.nil_cases with bare | added
    · exact ⟨.badEscape, by rw [readProperty, bare]⟩
    · obtain ⟨e, refused⟩ := propertyClass_closing flags negated
      rw [readProperty_letter negated added (by decide) (by decide), refused]
      exact ⟨e, rfl⟩
  | cons c rest =>
    rw [eq] at skipped
    obtain ⟨rest', eq', tail⟩ := skipped.cons_cases
    by_cases braced : c = '\x7b'
    · subst braced
      rw [readProperty_braced negated eq, readProperty_braced negated eq']
      refine .elim (readBraced_agrees tail (Nat.lt_succ_self _) (Nat.lt_succ_self _)) _ fun name rest rest' left => ?_
      exact .bind_value fun _ => .ok ⟨rfl, left⟩
    · by_cases escaped : c = '\\'
      · subst escaped
        rw [readProperty, readProperty, eq, eq']
        exact .error _ _
      · rw [readProperty_letter negated eq braced escaped, readProperty_letter negated eq' braced escaped]
        exact .bind_value fun _ => .ok ⟨rfl, tail.skip flags⟩

end Escapes

section Edges

variable {flags : Flags} {cs cs' : List Char} {m n : Nat}

theorem readEdgeName_eq (flags : Flags) (n : Nat) (cs : List Char) :
    readEdgeName flags n cs = gather isEdgeNameChar flags n cs := by
  induction n generalizing cs with
  | zero => rfl
  | succ n ih =>
    cases cs with
    | nil => rfl
    | cons c rest => rw [readEdgeName, gather, ih]

/-- A brace with nothing but the closing after it. -/
def Hanging (flags : Flags) (cs : List Char) : Prop := ∃ rest, cs = '\x7b' :: rest ∧ skip flags rest = closing

/-- What an escape sequence can end with that needed the closing to be complete: it took the parenthesis, or it left
a brace behind an assertion. -/
def EscapedLate (flags : Flags) (read : Atom × List Char) : Prop :=
  read.2 = ['$'] ∨ (∃ a, read.1 = .assertion a) ∧ Hanging flags read.2

def namedEdge? (name : String) : Option WordEdge :=
  if name = "start" then some .start
  else if name = "end" then some .finish
  else if name = "start-half" then some .startHalf
  else if name = "end-half" then some .finishHalf
  else none

variable {c : Char} {rest inside left : List Char}

theorem readEdge_plain (plain : ∀ rest, cs ≠ '\x7b' :: rest) :
    readEdge flags cs = .ok (.assertion (.word .boundary !flags.unicode), cs) := by
  unfold readEdge
  split
  case h_1 => exact absurd rfl (plain _)
  case h_2 => rfl

theorem readEdge_bare (eq : skip flags rest = []) : readEdge flags ('\x7b' :: rest) = .error .badRepetition := by
  simp only [readEdge, eq]

theorem readEdge_unnamed (eq : skip flags rest = c :: inside) (letter : isEdgeNameChar c = false) :
    readEdge flags ('\x7b' :: rest) = .ok (.assertion (.word .boundary !flags.unicode), '\x7b' :: rest) := by
  simp only [readEdge, eq, letter]
  rfl

theorem readEdge_named (eq : skip flags rest = c :: inside) (letter : isEdgeNameChar c = true)
    (closed : (readEdgeName flags (inside.length + 1) (c :: inside)).2 = '\x7d' :: left) :
    readEdge flags ('\x7b' :: rest) =
      (namedEdge? (String.ofList (readEdgeName flags (inside.length + 1) (c :: inside)).1)).elim (.error .badEscape)
        fun e => .ok (.assertion (.word e !flags.unicode), left) := by
  simp only [readEdge, eq, letter, Bool.not_true]
  generalize readEdgeName flags (inside.length + 1) (c :: inside) = found at closed ⊢
  obtain ⟨name, _⟩ := found
  dsimp only at closed
  subst closed
  unfold namedEdge?
  rw [if_neg Bool.false_ne_true]
  split
  case h_1 eq =>
    cases eq
    split <;> simp_all
  case h_2 other => exact absurd rfl (other _ _)

theorem readEdge_unclosed (eq : skip flags rest = c :: inside) (letter : isEdgeNameChar c = true)
    (open' : ∀ left, (readEdgeName flags (inside.length + 1) (c :: inside)).2 ≠ '\x7d' :: left) :
    readEdge flags ('\x7b' :: rest) = .error .badEscape := by
  simp only [readEdge, eq, letter, Bool.not_true]
  generalize readEdgeName flags (inside.length + 1) (c :: inside) = found at open' ⊢
  rw [if_neg Bool.false_ne_true]
  split
  case h_1 => exact absurd rfl (open' _)
  case h_2 => rfl

theorem readEdge_suffix (flags : Flags) (cs : List Char) : Leaves cs (readEdge flags cs) := by
  by_cases braced : ∃ rest, cs = '\x7b' :: rest
  case neg =>
    rw [readEdge_plain fun rest eq => braced ⟨rest, eq⟩]
    exact .ok List.suffix_rfl
  case pos =>
    obtain ⟨rest, rfl⟩ := braced
    cases eq : skip flags rest with
    | nil =>
      rw [readEdge_bare eq]
      exact .error _
    | cons c inside =>
      cases letter : isEdgeNameChar c with
      | false =>
        rw [readEdge_unnamed eq letter]
        exact .ok List.suffix_rfl
      | true =>
        have shorter := gather_suffix isEdgeNameChar flags (inside.length + 1) (c :: inside)
        rw [← eq, ← readEdgeName_eq] at shorter
        have tail := shorter.trans ((skip_suffix flags rest).trans (List.suffix_cons '\x7b' rest))
        rw [eq] at tail
        by_cases closed : ∃ left, (readEdgeName flags (inside.length + 1) (c :: inside)).2 = '\x7d' :: left
        · obtain ⟨left, closed⟩ := closed
          rw [closed] at tail
          rw [readEdge_named eq letter closed]
          cases namedEdge? _ with
          | none => exact .error _
          | some e => exact .ok ((List.suffix_cons '\x7d' left).trans tail)
        · rw [readEdge_unclosed eq letter fun left eq => closed ⟨left, eq⟩]
          exact .error _

theorem readEdge_agrees (h : Continues cs cs') :
    Agrees Beside (EscapedLate flags) (readEdge flags cs) (readEdge flags cs') := by
  rcases h.head_cases (c := '\x7b') (by decide) with ⟨rest, rest', rfl, rfl, tail⟩ | ⟨plain, plain'⟩
  case inr =>
    rw [readEdge_plain plain, readEdge_plain plain']
    exact .ok ⟨rfl, h⟩
  have skipped := tail.skip flags
  cases eq : skip flags rest with
  | nil =>
    rw [eq] at skipped
    rw [readEdge_bare eq]
    rcases skipped.nil_cases with bare | added
    · rw [readEdge_bare bare]
      exact .error _ _
    · rw [readEdge_unnamed added (by decide)]
      exact .late _ (.inr ⟨⟨_, rfl⟩, rest', rfl, added⟩)
  | cons c inside =>
    rw [eq] at skipped
    obtain ⟨inside', eq', later⟩ := skipped.cons_cases
    cases letter : isEdgeNameChar c with
    | false =>
      rw [readEdge_unnamed eq letter, readEdge_unnamed eq' letter]
      exact .ok ⟨rfl, h⟩
    | true =>
      have names : Beside (readEdgeName flags (inside.length + 1) (c :: inside))
          (readEdgeName flags (inside'.length + 1) (c :: inside')) := by
        rw [readEdgeName_eq, readEdgeName_eq]
        exact gather_beside flags (by decide) (eq' ▸ skipped) (Nat.le_refl _) (Nat.le_refl _)
      rcases names.2.head_cases (c := '\x7d') (by decide) with ⟨left, left', closed, closed', more⟩ | ⟨other, other'⟩
      · rw [readEdge_named eq letter closed, readEdge_named eq' letter closed', names.1]
        cases namedEdge? _ with
        | none => exact .error _ _
        | some e => exact .ok ⟨rfl, more⟩
      · rw [readEdge_unclosed eq letter other, readEdge_unclosed eq' letter other']
        exact .error _ _

/-- An escape sequence is one character, a few digits, a property's name, or the edge of a word. -/
theorem readEscape_suffix (flags : Flags) (cs : List Char) : Leaves cs (readEscape flags cs) := by
  cases cs with
  | nil => exact .error _
  | cons c rest =>
    have tail := List.suffix_cons c rest
    unfold readEscape
    dsimp only
    split_ifs
    · exact .error _
    · exact (readHex_suffix flags 2 rest).trans tail
    · exact (readHex_suffix flags 4 rest).trans tail
    · exact (readHex_suffix flags 8 rest).trans tail
    · exact (readProperty_suffix flags false rest).trans tail
    · exact (readProperty_suffix flags true rest).trans tail
    · exact .bind_value fun _ => .ok tail
    · exact .ok tail
    · split <;> first | exact .ok tail | exact .error _ | exact (readEdge_suffix flags rest).trans tail

theorem readEscape_agrees (h : Continues cs cs') :
    Agrees Beside (EscapedLate flags) (readEscape flags cs) (readEscape flags cs') := by
  cases cs with
  | nil =>
    rcases h.nil_cases with rfl | rfl
    · exact .error _ _
    · exact .late _ (.inl rfl)
  | cons c rest =>
    obtain ⟨rest', rfl, tail⟩ := h.cons_cases
    unfold readEscape
    dsimp only
    split_ifs
    · exact .error _ _
    · exact (readHex_agrees 2 tail).never
    · exact (readHex_agrees 4 tail).never
    · exact (readHex_agrees 8 tail).never
    · exact (readProperty_agrees false tail).never
    · exact (readProperty_agrees true tail).never
    · exact .bind_value fun _ => .ok ⟨rfl, tail⟩
    · exact .ok ⟨rfl, tail⟩
    · split <;> first | exact .ok ⟨rfl, tail⟩ | exact .error _ _ | exact readEdge_agrees tail

end Edges
end DocQuery.Regex
