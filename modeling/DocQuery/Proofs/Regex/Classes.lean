import DocQuery.Proofs.Regex.Escapes
import DocQuery.Regex.ClassReader

/-! Classes in brackets at the end of a text. The closing has no bracket, so a class that is open before it stays open,
whatever is read of it as members. -/
namespace DocQuery.Regex

/-- What is left has no bracket that could close a class. -/
def Unbracketed (read : α × List Char) : Prop := ']' ∉ read.2

theorem unbracketed_closing : ']' ∉ closing := by decide

theorem rel_cases {α β : Type} {related : α → β → Prop} {x : Option α} {y : Option β} (h : Option.Rel related x y) :
    x = none ∧ y = none ∨ ∃ a b, x = some a ∧ y = some b ∧ related a b := by
  cases h with
  | none => exact .inl ⟨rfl, rfl⟩
  | some same => exact .inr ⟨_, _, rfl, rfl, same⟩

theorem not_mem_of_suffix {c : Char} {cs cs' : List Char} (absent : c ∉ cs) (shorter : cs' <:+ cs) : c ∉ cs' :=
  fun h => absent (shorter.subset h)

/-- What is read late from a text without brackets leaves none. -/
theorem Agrees.of_unbracketed {α β : Type} {related : α → β × List Char → Prop} {cs : List Char}
    {y : Except Fault (β × List Char)} (e : Fault) (leaves : Leaves cs y) (absent : ']' ∉ cs) :
    Agrees related Unbracketed (.error e) y :=
  .of_late e fun b read => not_mem_of_suffix absent (leaves b.1 b.2 read)

section Opening

variable {flags : Flags} {cs cs' : List Char}

theorem readHyphens_eq (flags : Flags) (n : Nat) (cs : List Char) : readHyphens flags n cs =
    ((gather (· == '-') flags n cs).1.length, (gather (· == '-') flags n cs).2) := by
  induction n generalizing cs with
  | zero => rfl
  | succ n ih =>
    cases cs with
    | nil => rfl
    | cons c rest =>
      rw [gather]
      by_cases hyphen : c = '-'
      · subst hyphen
        simp [readHyphens, ih]
      · rw [readHyphens]
        · simp [hyphen]
        · rintro rest ⟨⟩
          exact hyphen rfl

/-- The mark of a complement. -/
def classMark (flags : Flags) (cs : List Char) : Bool × List Char :=
  match skip flags cs with
  | '^' :: rest => (true, skip flags rest)
  | rest => (false, rest)

/-- What follows the hyphens at the front of a class. -/
def classStart (flags : Flags) (negated : Bool) (hyphens : Nat) (cs : List Char) :
    Except Fault (ClassFrame × List Char) :=
  let frame : ClassFrame := ⟨negated, none, List.replicate hyphens ⟨.single '-', 0⟩⟩
  match cs with
  | [] => .error .unclosedClass
  | ']' :: rest =>
    if hyphens = 0 then
      match skip flags rest with
      | [] => .error .unclosedClass
      | rest => .ok (frame.push (.single ']'), rest)
    else .ok (frame, cs)
  | cs => .ok (frame, cs)

theorem openClass_eq (flags : Flags) (cs : List Char) : openClass flags cs =
    let mark := classMark flags cs
    let hyphens := gather (· == '-') flags (mark.2.length + 1) mark.2
    classStart flags mark.1 hyphens.1.length hyphens.2 := by
  simp only [openClass, readHyphens_eq]
  rfl

theorem classMark_beside (flags : Flags) (h : Continues cs cs') : Beside (classMark flags cs) (classMark flags cs') := by
  have skipped := h.skip flags
  rcases skipped.head_cases (c := '^') (by decide) with ⟨rest, rest', eq, eq', tail⟩ | ⟨plain, plain'⟩
  · rw [classMark, classMark, eq, eq']
    exact ⟨rfl, tail.skip flags⟩
  · have unmarked {cs : List Char} (plain : ∀ rest, skip flags cs ≠ '^' :: rest) :
        classMark flags cs = (false, skip flags cs) := by
      rw [classMark]
      split
      case h_1 eq => exact absurd eq (plain _)
      case h_2 => rfl
    rw [unmarked plain, unmarked plain']
    exact ⟨rfl, skipped⟩

theorem classMark_suffix (flags : Flags) (cs : List Char) : (classMark flags cs).2 <:+ cs := by
  have skipped := skip_suffix flags cs
  rw [classMark]
  split
  case h_1 rest eq =>
    rw [eq] at skipped
    exact (skip_suffix flags rest).trans ((List.suffix_cons '^' rest).trans skipped)
  case h_2 => exact skipped

variable {negated : Bool} {hyphens : Nat}

theorem classStart_plain (negated : Bool) (hyphens : Nat) (some : cs ≠ [])
    (plain : hyphens = 0 → ∀ rest, cs ≠ ']' :: rest) : classStart flags negated hyphens cs =
      .ok (⟨negated, none, List.replicate hyphens ⟨.single '-', 0⟩⟩, cs) := by
  unfold classStart
  split
  case h_1 => contradiction
  case h_2 rest =>
    by_cases none : hyphens = 0
    · exact absurd rfl (plain none rest)
    · rw [if_neg none]
  case h_3 => rfl

/-- A bracket at the front of a class stands for itself, if anything follows. -/
theorem classStart_bracket (negated : Bool) (rest : List Char) : classStart flags negated 0 (']' :: rest) =
    if (skip flags rest).isEmpty then .error .unclosedClass
    else .ok (⟨negated, none, [⟨.single ']', 0⟩]⟩, skip flags rest) := by
  unfold classStart
  simp only [if_pos]
  split
  case h_1 eq => rw [eq]; rfl
  case h_2 some =>
    rw [if_neg fun none => some (List.isEmpty_iff.mp none)]
    rfl

theorem classStart_suffix (flags : Flags) (negated : Bool) (hyphens : Nat) (cs : List Char) :
    Leaves cs (classStart flags negated hyphens cs) := by
  unfold classStart
  split
  case h_1 => exact .error _
  case h_2 rest =>
    split
    · have skipped := (skip_suffix flags rest).trans (List.suffix_cons ']' rest)
      split
      · exact .error _
      · exact .ok skipped
    · exact .ok List.suffix_rfl
  case h_3 => exact .ok List.suffix_rfl

theorem classStart_agrees (negated : Bool) (hyphens : Nat) (h : Continues cs cs') :
    Agrees Beside Unbracketed (classStart flags negated hyphens cs) (classStart flags negated hyphens cs') := by
  cases cs with
  | nil =>
    rcases h.nil_cases with rfl | rfl
    · exact .error _ _
    · exact .of_unbracketed _ (classStart_suffix flags negated hyphens closing) unbracketed_closing
  | cons c rest =>
    obtain ⟨rest', rfl, tail⟩ := h.cons_cases
    by_cases bracket : hyphens = 0 ∧ c = ']'
    · obtain ⟨rfl, rfl⟩ := bracket
      have skipped := tail.skip flags
      rw [classStart_bracket, classStart_bracket]
      cases eq : skip flags rest with
      | nil =>
        rw [eq] at skipped
        rcases skipped.nil_cases with bare | added
        · rw [bare]
          exact .error _ _
        · rw [added]
          exact .late _ unbracketed_closing
      | cons c more =>
        rw [eq] at skipped
        obtain ⟨more', eq', later⟩ := skipped.cons_cases
        rw [eq']
        exact .ok ⟨rfl, later.cons c⟩
    · have plain (cs : List Char) : hyphens = 0 → ∀ rest, c :: cs ≠ ']' :: rest :=
        fun none rest eq => bracket ⟨none, (List.cons.inj eq).1⟩
      rw [classStart_plain negated hyphens (List.cons_ne_nil _ _) (plain _),
        classStart_plain negated hyphens (List.cons_ne_nil _ _) (plain _)]
      exact .ok ⟨rfl, h⟩

theorem openClass_suffix (flags : Flags) (cs : List Char) : Leaves cs (openClass flags cs) := by
  rw [openClass_eq]
  exact (classStart_suffix flags _ _ _).trans ((gather_suffix _ flags _ _).trans (classMark_suffix flags cs))

theorem openClass_agrees (h : Continues cs cs') :
    Agrees Beside Unbracketed (openClass flags cs) (openClass flags cs') := by
  rw [openClass_eq, openClass_eq]
  obtain ⟨mark, after⟩ := classMark_beside flags h
  obtain ⟨hyphens, left⟩ : Beside
      (gather (· == '-') flags ((classMark flags cs).2.length + 1) (classMark flags cs).2)
      (gather (· == '-') flags ((classMark flags cs').2.length + 1) (classMark flags cs').2) :=
    gather_beside flags (by decide) after (Nat.le_succ _) (Nat.le_succ _)
  dsimp only
  rw [mark, hyphens]
  exact classStart_agrees _ _ left

end Opening

section Members

variable {flags : Flags} {cs cs' : List Char}

/-- The mark of a complement in a named class. -/
def posixMark (cs : List Char) : Bool × List Char :=
  match cs with
  | '^' :: cs => (true, cs)
  | cs => (false, cs)

/-- A named class from its name on. -/
def posixBody (negated : Bool) (cs : List Char) : Option (Bool × CharClass × List Char) := do
  let (name, rest) := cs.span (· ≠ ':')
  let ':' :: ']' :: rest := rest | none
  let set ← CharClass.posix? (String.ofList name)
  return (negated, set, rest)

theorem readPosix?_colon (cs : List Char) :
    readPosix? (':' :: cs) = posixBody (posixMark cs).1 (posixMark cs).2 := rfl

theorem readPosix?_none (other : ∀ rest, cs ≠ ':' :: rest) : readPosix? cs = none := by
  unfold readPosix?
  split
  case h_1 => exact absurd rfl (other _)
  case h_2 => rfl

theorem posixMark_suffix (cs : List Char) : (posixMark cs).2 <:+ cs := by
  unfold posixMark
  split
  case h_1 rest => exact List.suffix_cons '^' rest
  case h_2 => exact List.suffix_rfl

theorem posixMark_beside (h : Continues cs cs') : Beside (posixMark cs) (posixMark cs') := by
  rcases h.head_cases (c := '^') (by decide) with ⟨rest, rest', rfl, rfl, tail⟩ | ⟨plain, plain'⟩
  · exact ⟨rfl, tail⟩
  · have unmarked {cs : List Char} (plain : ∀ rest, cs ≠ '^' :: rest) : posixMark cs = (false, cs) := by
      unfold posixMark
      split
      case h_1 => exact absurd rfl (plain _)
      case h_2 => rfl
    rw [unmarked plain, unmarked plain']
    exact ⟨rfl, h⟩

theorem posixBody_named {name rest : List Char} (negated : Bool)
    (eq : cs.span (· ≠ ':') = (name, ':' :: ']' :: rest)) :
    posixBody negated cs = (CharClass.posix? (String.ofList name)).map fun set => (negated, set, rest) := by
  rw [posixBody, eq]
  change (CharClass.posix? (String.ofList name) >>= fun set => some (negated, set, rest)) = _
  cases CharClass.posix? (String.ofList name) <;> rfl

theorem posixBody_none (negated : Bool) (other : ∀ rest, (cs.span (· ≠ ':')).2 ≠ ':' :: ']' :: rest) :
    posixBody negated cs = none := by
  rw [posixBody]
  generalize cs.span (· ≠ ':') = found at other ⊢
  dsimp only
  split
  case h_1 eq => exact absurd eq (other _)
  case h_2 => rfl

/-- What is read of a named class, and what is left after it. -/
def BesideSet (a b : Bool × CharClass × List Char) : Prop := a.1 = b.1 ∧ Beside a.2 b.2

theorem posixBody_rel (negated : Bool) (h : Continues cs cs') :
    Option.Rel BesideSet (posixBody negated cs) (posixBody negated cs') := by
  rcases span_cases (c := ':') (by decide) h with ⟨name, rest, rest', eq, eq', tail⟩ | ⟨bare, bare'⟩
  · rcases tail.head_cases (c := ']') (by decide) with ⟨left, left', rfl, rfl, more⟩ | ⟨open', open''⟩
    · rw [posixBody_named negated eq, posixBody_named negated eq']
      cases CharClass.posix? (String.ofList name) with
      | none => exact .none
      | some set => exact .some ⟨rfl, rfl, more⟩
    · have unclosed {cs rest : List Char} (eq : cs.span (· ≠ ':') = (name, ':' :: rest))
          (open' : ∀ left, rest ≠ ']' :: left) : posixBody negated cs = none :=
        posixBody_none negated fun left closed => by
          rw [eq] at closed
          exact open' left (List.cons.inj closed).2
      rw [unclosed eq open', unclosed eq' open'']
      exact .none
  · rw [posixBody_none negated (by rw [bare]; nofun), posixBody_none negated (by rw [bare']; nofun)]
    exact .none

theorem readPosix?_rel (h : Continues cs cs') : Option.Rel BesideSet (readPosix? cs) (readPosix? cs') := by
  rcases h.head_cases (c := ':') (by decide) with ⟨rest, rest', rfl, rfl, tail⟩ | ⟨other, other'⟩
  · obtain ⟨mark, left⟩ := posixMark_beside tail
    rw [readPosix?_colon, readPosix?_colon, mark]
    exact posixBody_rel _ left
  · rw [readPosix?_none other, readPosix?_none other']
    exact .none

theorem readPosix?_suffix {negated : Bool} {set : CharClass} {rest : List Char}
    (read : readPosix? cs = some (negated, set, rest)) : rest <:+ cs := by
  by_cases colon : ∃ rest, cs = ':' :: rest
  case neg =>
    rw [readPosix?_none fun rest eq => colon ⟨rest, eq⟩] at read
    contradiction
  case pos =>
    obtain ⟨body, rfl⟩ := colon
    rw [readPosix?_colon] at read
    refine List.IsSuffix.trans ?_ ((posixMark_suffix body).trans (List.suffix_cons ':' body))
    generalize (posixMark body).1 = mark at read
    generalize (posixMark body).2 = cs at read ⊢
    by_cases closed : ∃ rest, (cs.span (· ≠ ':')).2 = ':' :: ']' :: rest
    case neg =>
      rw [posixBody_none mark fun rest eq => closed ⟨rest, eq⟩] at read
      contradiction
    case pos =>
      obtain ⟨left, closed⟩ := closed
      rw [posixBody_named mark (Prod.ext rfl closed)] at read
      obtain ⟨set, _, same⟩ := Option.map_eq_some_iff.mp read
      cases same
      have shorter := span_suffix (· ≠ ':') cs
      rw [closed] at shorter
      exact ((List.suffix_cons ']' _).trans (List.suffix_cons ':' _)).trans shorter

theorem readMember_suffix (flags : Flags) (c : Char) (rest : List Char) :
    Leaves rest (readMember flags (c :: rest)) := by
  unfold readMember
  split
  case h_1 => contradiction
  case h_2 eq =>
    cases eq
    exact readEscape_suffix flags rest
  case h_3 eq =>
    cases eq
    exact .ok List.suffix_rfl

/-- A member that is read late leaves no bracket, or it is no member. -/
def MemberLate (read : Atom × List Char) : Prop := ']' ∉ read.2 ∨ ∃ a, read.1 = .assertion a

theorem readMember_agrees (h : Continues cs cs') :
    Agrees Beside MemberLate (readMember flags cs) (readMember flags cs') := by
  cases cs with
  | nil =>
    rcases h.nil_cases with rfl | rfl
    · exact .error _ _
    · exact .late _ (.inl (by decide))
  | cons c rest =>
    obtain ⟨rest', rfl, tail⟩ := h.cons_cases
    by_cases escaped : c = '\\'
    · subst escaped
      refine (readEscape_agrees tail).weaken fun read late => ?_
      rcases late with dollar | ⟨assertion, _⟩
      · exact .inl (by rw [dollar]; decide)
      · exact .inr assertion
    · have plain (rest : List Char) : readMember flags (c :: rest) = .ok (.char c false, rest) := by
        unfold readMember
        split
        case h_1 => contradiction
        case h_2 eq => exact absurd (List.cons.inj eq).1 escaped
        case h_3 eq =>
          cases eq
          rfl
      rw [plain, plain]
      exact .ok ⟨rfl, tail⟩

end Members

section Ranges

variable {flags : Flags} {cs cs' : List Char}

theorem lookPast_continues (flags : Flags) (h : Continues cs cs') : Continues (lookPast flags cs) (lookPast flags cs') := by
  have blank : Unicode.isBlank ')' = false := by decide +kernel
  have dropped := h.dropWhile blank
  unfold lookPast
  split
  case isFalse => exact h
  case isTrue =>
    rcases dropped.head_cases (c := '#') (by decide) with ⟨rest, rest', eq, eq', tail⟩ | ⟨other, other'⟩
    · rw [eq, eq']
      exact tail.dropWhile blank
    · split
      case h_1 eq => exact absurd eq (other _)
      case h_2 => exact dropped

theorem makesRange_hyphen (flags : Flags) (rest : List Char) : makesRange flags ('-' :: rest) =
    ((lookPast flags rest).head? != some ']' && (lookPast flags rest).head? != some '-') := by
  rw [makesRange]
  generalize lookPast flags rest = past
  cases past with
  | nil => rfl
  | cons c past =>
    split
    case h_1 eq =>
      cases eq
      rfl
    case h_2 eq =>
      cases eq
      rfl
    case h_3 bracket hyphen =>
      have bracket : c ≠ ']' := fun same => bracket past (congrArg (· :: past) same)
      have hyphen : c ≠ '-' := fun same => hyphen past (congrArg (· :: past) same)
      simp [bracket, hyphen]

theorem makesRange_eq (flags : Flags) (h : Continues cs cs') : makesRange flags cs = makesRange flags cs' := by
  rcases h.head_cases (c := '-') (by decide) with ⟨rest, rest', rfl, rfl, tail⟩ | ⟨other, other'⟩
  · have past := lookPast_continues flags tail
    have same {c : Char} (other : c ≠ ')') :
        ((lookPast flags rest).head? != some c) = ((lookPast flags rest').head? != some c) := by
      rw [Bool.eq_iff_iff, bne_iff_ne, bne_iff_ne, ne_eq, ne_eq, past.head?_iff other]
    rw [makesRange_hyphen, makesRange_hyphen, same (by decide), same (by decide)]
  · have none {cs : List Char} (other : ∀ rest, cs ≠ '-' :: rest) : makesRange flags cs = false := by
      unfold makesRange
      split
      case h_1 => exact absurd rfl (other _)
      case h_2 => rfl
    rw [none other, none other']

/-- The characters from one to another. -/
def rangeSet (flags : Flags) (first last : Atom) : Except Fault CharClass := do
  let first ← classChar flags first
  let last ← classChar flags last
  if last.toNat < first.toNat then throw .badClass
  return .range first.toNat last.toNat

/-- What the hyphen after a member leads to. -/
def rangeTo (flags : Flags) (first : Atom) (cs : List Char) : Except Fault (CharClass × List Char) :=
  if cs.isEmpty then .error .unclosedClass
  else readMember flags cs >>= fun last => (rangeSet flags first last.1).map fun set => (set, last.2)

/-- What a member and the text after it come to. -/
def afterMember (flags : Flags) (first : Atom) (cs : List Char) : Except Fault (CharClass × List Char) :=
  if cs.isEmpty then .error .unclosedClass
  else if makesRange flags cs then rangeTo flags first (skip flags (cs.drop 1))
  else (memberSet flags first).map fun set => (set, cs)

theorem readRange_eq (flags : Flags) (cs : List Char) :
    readRange flags cs = readMember flags cs >>= fun read => afterMember flags read.1 (skip flags read.2) := by
  unfold readRange afterMember rangeTo
  refine bind_congr fun read => ?_
  dsimp only
  by_cases bare : (skip flags read.2).isEmpty = true
  · rw [if_pos bare, if_pos bare]
    rfl
  · rw [if_neg bare, if_neg bare]
    by_cases ranges : makesRange flags (skip flags read.2) = true
    · rw [if_pos ranges, if_pos ranges]
      split
      · rfl
      · refine bind_congr fun last => ?_
        unfold rangeSet
        cases classChar flags read.1 with
        | error e => rfl
        | ok first =>
          cases classChar flags last.1 with
          | error e => rfl
          | ok last =>
            simp only [bind, Except.bind]
            split <;> rfl
    · rw [if_neg ranges, if_neg ranges]
      cases memberSet flags read.1 <;> rfl

theorem rangeTo_suffix (flags : Flags) (first : Atom) (cs : List Char) : Leaves cs (rangeTo flags first cs) := by
  cases cs with
  | nil => exact .error _
  | cons c rest =>
    exact Leaves.trans (.bind (readMember_suffix flags c rest) fun last left shorter => .bind_value fun set => .ok shorter)
      (List.suffix_cons c rest)

theorem afterMember_suffix (flags : Flags) (first : Atom) (cs : List Char) :
    Leaves cs (afterMember flags first cs) := by
  unfold afterMember
  split_ifs
  · exact .error _
  · exact (rangeTo_suffix flags first _).trans ((skip_suffix flags _).trans (List.drop_suffix 1 cs))
  · exact .bind_value fun _ => .ok List.suffix_rfl

theorem readRange_suffix (flags : Flags) (c : Char) (rest : List Char) :
    Leaves rest (readRange flags (c :: rest)) := by
  rw [readRange_eq]
  refine .bind (readMember_suffix flags c rest) fun first left shorter => ?_
  exact (afterMember_suffix flags first _).trans ((skip_suffix flags left).trans shorter)

/-- An assertion is no member of a class, neither by itself nor at an end of a range. -/
theorem afterMember_assertion (flags : Flags) (a : Assertion) (cs : List Char) :
    ∃ e, afterMember flags (.assertion a) cs = .error e := by
  unfold afterMember rangeTo
  split_ifs
  · exact ⟨_, rfl⟩
  · exact ⟨_, rfl⟩
  · cases readMember flags (skip flags (cs.drop 1)) with
    | error e => exact ⟨e, rfl⟩
    | ok last => exact ⟨_, rfl⟩
  · exact ⟨_, rfl⟩

theorem rangeSet_assertion (flags : Flags) (first : Atom) (a : Assertion) :
    ∃ e, rangeSet flags first (.assertion a) = .error e := by
  unfold rangeSet
  cases classChar flags first with
  | error e => exact ⟨e, rfl⟩
  | ok c => exact ⟨_, rfl⟩

theorem rangeTo_agrees (first : Atom) (h : Continues cs cs') :
    Agrees Beside Unbracketed (rangeTo flags first cs) (rangeTo flags first cs') := by
  cases cs with
  | nil =>
    rcases h.nil_cases with rfl | rfl
    · exact .error _ _
    · exact .of_unbracketed _ (rangeTo_suffix flags first closing) unbracketed_closing
  | cons c rest =>
    obtain ⟨rest', rfl, tail⟩ := h.cons_cases
    refine (readMember_agrees h).bind ?_ ?_
    · rintro ⟨last, left⟩ ⟨_, left'⟩ ⟨rfl, more⟩
      exact .bind_value fun _ => .ok ⟨rfl, more⟩
    · rintro e ⟨last, left⟩ (absent | ⟨a, rfl⟩)
      · exact .of_unbracketed e (.bind_value fun _ => .ok List.suffix_rfl) absent
      · obtain ⟨e', refused⟩ := rangeSet_assertion flags first a
        exact .of_refused e ⟨e', by rw [refused]; rfl⟩

theorem afterMember_agrees (first : Atom) (h : Continues cs cs') :
    Agrees Beside Unbracketed (afterMember flags first cs) (afterMember flags first cs') := by
  cases cs with
  | nil =>
    rcases h.nil_cases with rfl | rfl
    · exact .error _ _
    · exact .of_unbracketed _ (afterMember_suffix flags first closing) unbracketed_closing
  | cons c rest =>
    unfold afterMember
    obtain ⟨rest', rfl, tail⟩ := h.cons_cases
    rw [List.isEmpty_cons, List.isEmpty_cons, if_neg Bool.false_ne_true, if_neg Bool.false_ne_true,
      makesRange_eq flags h]
    split
    · exact rangeTo_agrees first (tail.skip flags)
    · exact .bind_value fun _ => .ok ⟨rfl, h⟩

theorem readRange_agrees (h : Continues cs cs') :
    Agrees Beside Unbracketed (readRange flags cs) (readRange flags cs') := by
  rw [readRange_eq, readRange_eq]
  refine (readMember_agrees h).bind ?_ ?_
  · rintro ⟨first, left⟩ ⟨_, left'⟩ ⟨rfl, more⟩
    exact afterMember_agrees first (more.skip flags)
  · rintro e ⟨first, left⟩ (absent | ⟨a, rfl⟩)
    · exact .of_unbracketed e (afterMember_suffix flags first _) (not_mem_of_suffix absent (skip_suffix flags left))
    · exact .of_refused e (afterMember_assertion flags a _)

end Ranges

section Bodies

variable {flags : Flags} {cs cs' : List Char} {m n : Nat}

/-- An operator between classes is one character written twice. -/
def setOperator? (c : Char) (cs : List Char) : Option (SetOperator × List Char) :=
  if cs.head? = some c then
    if c = '&' then some (.inter, cs.tail)
    else if c = '-' then some (.difference, cs.tail)
    else if c = '~' then some (.symmetricDifference, cs.tail)
    else none
  else none

variable {outer : List ClassFrame} {parent frame : ClassFrame} {c : Char} {rest : List Char}

theorem readClassBody_over (eq : skip flags cs = []) : readClassBody flags n outer frame cs = .error .unclosedClass := by
  cases n with
  | zero => rfl
  | succ n => rw [readClassBody, eq]

theorem readClassBody_open (eq : skip flags cs = '[' :: rest) : readClassBody flags (n + 1) outer frame cs =
    (readPosix? rest).elim
      (openClass flags rest >>= fun inner => readClassBody flags n (frame :: outer) inner.1 inner.2)
      fun named => finishSet flags named.1 named.2.1 >>= fun set =>
        readClassBody flags n outer (frame.push set) named.2.2 := by
  rw [readClassBody, eq]
  cases named : readPosix? rest with
  | none =>
    simp only [named]
    rfl
  | some named' =>
    simp only [named]
    rfl

theorem readClassBody_close (eq : skip flags cs = ']' :: rest) : readClassBody flags (n + 1) [] frame cs =
    (frame.close flags).map fun part => (part, rest) := by
  rw [readClassBody, eq]
  cases frame.close flags <;> rfl

theorem readClassBody_return (eq : skip flags cs = ']' :: rest) :
    readClassBody flags (n + 1) (parent :: outer) frame cs = frame.close flags >>= fun part =>
      readClassBody flags n outer { parent with members := part :: parent.members } rest := by
  rw [readClassBody, eq]
  rfl

theorem readClassBody_member (eq : skip flags cs = c :: rest) (opens : c ≠ '[') (closes : c ≠ ']') :
    readClassBody flags (n + 1) outer frame cs = (setOperator? c rest).elim
      (readRange flags (c :: rest) >>= fun member => readClassBody flags n outer (frame.push member.1) member.2)
      fun op => readClassBody flags n outer (frame.operate flags op.1) op.2 := by
  rw [readClassBody, eq]
  split
  case h_1 => contradiction
  case h_2 eq => exact absurd (List.cons.inj eq).1 opens
  case h_3 eq => exact absurd (List.cons.inj eq).1 closes
  case h_4 eq =>
    cases eq
    rfl
  case h_5 eq =>
    cases eq
    rfl
  case h_6 eq =>
    cases eq
    rfl
  case h_7 inter difference symmetric =>
    have plain : setOperator? c rest = none := by
      have twice {d : Char} (other : ∀ more, c :: rest = d :: d :: more → False) (same : c = d) :
          rest.head? ≠ some c := fun doubled => by
        obtain ⟨more, eq⟩ := List.head?_eq_some_iff.mp doubled
        exact other more (by rw [eq, same])
      unfold setOperator?
      split_ifs with doubled amp hyphen tilde
      · exact absurd doubled (twice inter amp)
      · exact absurd doubled (twice difference hyphen)
      · exact absurd doubled (twice symmetric tilde)
      · rfl
      · rfl
    rw [plain]
    rfl

theorem setOperator?_suffix {op : SetOperator} {left : List Char} (read : setOperator? c cs = some (op, left)) :
    left <:+ cs := by
  have tail := List.tail_suffix cs
  unfold setOperator? at read
  split_ifs at read <;> cases read <;> exact tail

theorem setOperator?_rel (c : Char) (h : Continues cs cs') :
    Option.Rel Beside (setOperator? c cs) (setOperator? c cs') := by
  by_cases paren : c = ')'
  · subst paren
    have none (cs : List Char) : setOperator? ')' cs = none := by simp [setOperator?]
    rw [none, none]
    exact .none
  · rcases h.head_cases paren with ⟨rest, rest', rfl, rfl, tail⟩ | ⟨other, other'⟩
    · unfold setOperator?
      simp only [List.head?_cons, if_true, List.tail_cons]
      split_ifs
      · exact .some ⟨rfl, tail⟩
      · exact .some ⟨rfl, tail⟩
      · exact .some ⟨rfl, tail⟩
      · exact .none
    · have single {cs : List Char} (other : ∀ rest, cs ≠ c :: rest) : setOperator? c cs = none := by
        unfold setOperator?
        rw [if_neg]
        exact fun doubled => (List.head?_eq_some_iff.mp doubled).elim other
      rw [single other, single other']
      exact .none

theorem readClassBody_suffix (flags : Flags) (n : Nat) (outer : List ClassFrame) (frame : ClassFrame) (cs : List Char) :
    Leaves cs (readClassBody flags n outer frame cs) := by
  induction n generalizing outer frame cs with
  | zero => exact .error _
  | succ n ih =>
    have skipped := skip_suffix flags cs
    cases eq : skip flags cs with
    | nil =>
      rw [readClassBody_over eq]
      exact .error _
    | cons c rest =>
      rw [eq] at skipped
      refine Leaves.trans ?_ ((List.suffix_cons c rest).trans skipped)
      have go (outer : List ClassFrame) (frame : ClassFrame) {left : List Char} (shorter : left <:+ rest) :
          Leaves rest (readClassBody flags n outer frame left) := (ih outer frame left).trans shorter
      by_cases opens : c = '['
      · subst opens
        rw [readClassBody_open eq]
        cases named : readPosix? rest with
        | none => exact .bind (openClass_suffix flags rest) fun inner left shorter => go _ _ shorter
        | some named' => exact .bind_value fun set => go _ _ (readPosix?_suffix named)
      · by_cases closes : c = ']'
        · subst closes
          cases outer with
          | nil =>
            rw [readClassBody_close eq]
            exact .bind_value fun part => .ok List.suffix_rfl
          | cons parent outer =>
            rw [readClassBody_return eq]
            exact .bind_value fun part => go _ _ List.suffix_rfl
        · rw [readClassBody_member eq opens closes]
          cases op : setOperator? c rest with
          | none => exact .bind (readRange_suffix flags c rest) fun member left shorter => go _ _ shorter
          | some op' => exact go _ _ (setOperator?_suffix op)

/-- A class without a bracket to close it has no end. -/
theorem readClassBody_unclosed (flags : Flags) (n : Nat) (outer : List ClassFrame) (frame : ClassFrame)
    (absent : ']' ∉ skip flags cs) : ∃ e, readClassBody flags n outer frame cs = .error e := by
  induction n generalizing outer frame cs with
  | zero => exact ⟨_, rfl⟩
  | succ n ih =>
    cases eq : skip flags cs with
    | nil => exact ⟨_, readClassBody_over eq⟩
    | cons c rest =>
      rw [eq, List.mem_cons, not_or] at absent
      obtain ⟨closes, absent⟩ := absent
      have go (outer : List ClassFrame) (frame : ClassFrame) {left : List Char} (shorter : left <:+ rest) :=
        ih outer frame (not_mem_of_suffix absent ((skip_suffix flags left).trans shorter))
      have after {α : Type} {x : Except Fault (α × List Char)} (leaves : Leaves rest x) (outer : α → List ClassFrame)
          (frame : α → ClassFrame) :
          ∃ e, (x >>= fun a => readClassBody flags n (outer a.1) (frame a.1) a.2) = .error e := by
        cases x with
        | error e => exact ⟨e, rfl⟩
        | ok a => exact go _ _ (leaves a.1 a.2 rfl)
      by_cases opens : c = '['
      · subst opens
        rw [readClassBody_open eq]
        cases named : readPosix? rest with
        | none => exact after (openClass_suffix flags rest) (fun _ => frame :: outer) id
        | some named' =>
          cases finished : finishSet flags named'.1 named'.2.1 with
          | error e => exact ⟨e, by simp only [Option.elim, finished]; rfl⟩
          | ok set =>
            simp only [Option.elim, finished]
            exact go _ _ (readPosix?_suffix named)
      · rw [readClassBody_member eq opens (Ne.symm closes)]
        cases op : setOperator? c rest with
        | none => exact after (readRange_suffix flags c rest) (fun _ => outer) fun set => frame.push set
        | some op' => exact go _ _ (setOperator?_suffix op)

theorem readClassBody_agrees (outer : List ClassFrame) (frame : ClassFrame) (h : Continues cs cs')
    (enough : cs.length < n) (enough' : cs'.length < m) :
    Agrees Beside Never (readClassBody flags n outer frame cs) (readClassBody flags m outer frame cs') := by
  induction n generalizing m outer frame cs cs' with
  | zero => contradiction
  | succ n ih =>
    obtain ⟨m, rfl⟩ := Nat.exists_eq_add_one_of_ne_zero (Nat.ne_zero_of_lt enough')
    have skipped := h.skip flags
    have shorter := (skip_suffix flags cs).length_le
    have shorter' := (skip_suffix flags cs').length_le
    cases eq : skip flags cs with
    | nil =>
      rw [eq] at skipped
      rw [readClassBody_over eq]
      rcases skipped.nil_cases with bare | added
      · rw [readClassBody_over bare]
        exact .error _ _
      · exact .of_refused _ (readClassBody_unclosed flags (m + 1) outer frame (added ▸ unbracketed_closing))
    | cons c rest =>
      rw [eq] at skipped shorter
      obtain ⟨rest', eq', tail⟩ := skipped.cons_cases
      rw [eq'] at shorter'
      rw [List.length_cons] at shorter shorter'
      have go (outer : List ClassFrame) (frame : ClassFrame) {left left' : List Char} (more : Continues left left')
          (part : left <:+ rest) (part' : left' <:+ rest') :
          Agrees Beside Never (readClassBody flags n outer frame left) (readClassBody flags m outer frame left') := by
        have := part.length_le
        have := part'.length_le
        exact ih outer frame more (by omega) (by omega)
      have late (outer : List ClassFrame) (frame : ClassFrame) {left : List Char} (e : Fault) (absent : ']' ∉ left) :
          Agrees (α := ClassPart × List Char) Beside Never (.error e) (readClassBody flags m outer frame left) :=
        .of_refused e (readClassBody_unclosed flags m outer frame (not_mem_of_suffix absent (skip_suffix flags left)))
      by_cases opens : c = '['
      · subst opens
        rw [readClassBody_open eq, readClassBody_open eq']
        rcases rel_cases (readPosix?_rel tail) with ⟨none, none'⟩ | ⟨named, named', found, found', same⟩
        · rw [none, none']
          exact (openClass_agrees tail).bind_leaves (openClass_suffix flags rest) (openClass_suffix flags rest')
            (fun inner left left' more part part' => go _ _ more part part') fun e inner left absent => late _ _ e absent
        · obtain ⟨negated, set, left⟩ := named
          obtain ⟨_, _, left'⟩ := named'
          obtain ⟨rfl, rfl, more⟩ := same
          rw [found, found']
          exact .bind_value fun set => go _ _ more (readPosix?_suffix found) (readPosix?_suffix found')
      · by_cases closes : c = ']'
        · subst closes
          cases outer with
          | nil =>
            rw [readClassBody_close eq, readClassBody_close eq']
            exact .bind_value fun part => .ok ⟨rfl, tail⟩
          | cons parent outer =>
            rw [readClassBody_return eq, readClassBody_return eq']
            exact .bind_value fun part => go _ _ tail List.suffix_rfl List.suffix_rfl
        · rw [readClassBody_member eq opens closes, readClassBody_member eq' opens closes]
          rcases rel_cases (setOperator?_rel c tail) with ⟨none, none'⟩ | ⟨op, op', found, found', same⟩
          · rw [none, none']
            exact (readRange_agrees (tail.cons c)).bind_leaves (readRange_suffix flags c rest)
              (readRange_suffix flags c rest') (fun member left left' more part part' => go _ _ more part part')
              fun e member left absent => late _ _ e absent
          · obtain ⟨op, left⟩ := op
            obtain ⟨_, left'⟩ := op'
            obtain ⟨rfl, more⟩ := same
            rw [found, found']
            exact go _ _ more (setOperator?_suffix found) (setOperator?_suffix found')

theorem readClass_suffix (flags : Flags) (cs : List Char) : Leaves cs (readClass flags cs) :=
  .bind (openClass_suffix flags cs) fun frame left shorter => (readClassBody_suffix flags _ [] frame left).trans shorter

/-- A class never gets closed by what stands behind the text. -/
theorem readClass_agrees (h : Continues cs cs') :
    Agrees Beside Never (readClass flags cs) (readClass flags cs') := by
  refine (openClass_agrees h).bind ?_ ?_
  · rintro ⟨frame, left⟩ ⟨_, left'⟩ ⟨rfl, more⟩
    exact readClassBody_agrees [] frame more (Nat.lt_succ_self _) (Nat.lt_succ_self _)
  · rintro e ⟨frame, left⟩ absent
    exact .of_refused e (readClassBody_unclosed flags _ [] frame (not_mem_of_suffix absent (skip_suffix flags left)))

end Bodies
end DocQuery.Regex
