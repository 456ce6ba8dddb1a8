import DocQuery.Proofs.Regex.Parts

/-! The texts that wildcards stand for. Compiled wildcards accept these and no others, whether their shape is
simple or they are matched as an expression. -/
namespace DocQuery.Pattern

/-- What one character of a pattern stands for: `%` for any run of characters within a line, `_` for one
character of a line, and every other one for itself. -/
def StandsFor (p : Char) (covered : List Char) : Prop :=
  if p = '%' then '\n' ∉ covered else if p = '_' then ∃ c, c ≠ '\n' ∧ covered = [c] else covered = [p]

/-- A text put together from what the characters of a pattern stand for. -/
inductive Like : List Char → List Char → Prop
  | nil : Like [] []
  | cons {p ps covered rest} : StandsFor p covered → Like ps rest → Like (p :: ps) (covered ++ rest)

section Language

variable {ps qs text : List Char} {p : Char}

theorem like_nil_iff : Like [] text ↔ text = [] := by
  constructor
  · rintro ⟨⟩
    rfl
  · rintro rfl
    exact .nil

theorem like_cons_iff :
    Like (p :: ps) text ↔ ∃ covered rest, text = covered ++ rest ∧ StandsFor p covered ∧ Like ps rest := by
  constructor
  · rintro (_ | ⟨here, later⟩)
    exact ⟨_, _, rfl, here, later⟩
  · rintro ⟨covered, rest, rfl, here, later⟩
    exact .cons here later

theorem like_append_iff : Like (ps ++ qs) text ↔ ∃ front back, text = front ++ back ∧ Like ps front ∧ Like qs back := by
  induction ps generalizing text with
  | nil => simp [like_nil_iff]
  | cons p ps ih =>
    simp only [List.cons_append, like_cons_iff, ih]
    constructor
    · rintro ⟨covered, _, rfl, here, front, back, rfl, h, h'⟩
      exact ⟨covered ++ front, back, by simp, ⟨covered, front, rfl, here, h⟩, h'⟩
    · rintro ⟨_, back, rfl, ⟨covered, front, rfl, here, h⟩, h'⟩
      exact ⟨covered, front ++ back, by simp, here, front, back, rfl, h, h'⟩

theorem like_literal_iff (plain : ∀ c ∈ ps, c ≠ '%' ∧ c ≠ '_') : Like ps text ↔ text = ps := by
  induction ps generalizing text with
  | nil => exact like_nil_iff
  | cons p ps ih =>
    obtain ⟨⟨run, any⟩, others⟩ := List.forall_mem_cons.mp plain
    simp [like_cons_iff, StandsFor, run, any, ih others]

/-- Several runs stand for what one does. -/
theorem like_runs_iff (n : Nat) : Like (List.replicate n '%') text ↔ '\n' ∉ text ∧ (n = 0 → text = []) := by
  induction n generalizing text with
  | zero => simp +contextual [like_nil_iff]
  | succ n ih =>
    simp only [List.replicate_succ, like_cons_iff, StandsFor, if_true, ih]
    constructor
    · rintro ⟨covered, rest, rfl, line, line', _⟩
      simp [line, line']
    · rintro ⟨line, _⟩
      exact ⟨text, [], by simp, line, by simp⟩

end Language

section Expressions

variable {text : List Char}

/-- What one character of a pattern is written as. -/
def wildcardPart (c : Char) : RegexPart := if c = '%' then .dots else if c = '_' then .dot else .char c

theorem likeRegex_eq (rules : RegexRules) (ps : List Char) :
    likeRegex rules ps = (ps.map wildcardPart).flatMap (·.source rules) := by
  rw [likeRegex, List.flatMap_map]
  congr 1
  funext c
  rw [likePart, wildcardPart]
  split_ifs <;> rfl

theorem mem_wildcardPart_iff (p : Char) : text ∈ (wildcardPart p).language ↔ StandsFor p text := by
  rw [wildcardPart, StandsFor]
  split_ifs
  · exact RegexPart.mem_language_dots
  · exact RegexPart.mem_language_dot
  · exact RegexPart.mem_language_char

theorem mem_wildcards_iff (ps : List Char) :
    text ∈ ((ps.map wildcardPart).map (·.language)).prod ↔ Like ps text := by
  induction ps generalizing text with
  | nil => exact like_nil_iff.symm
  | cons p ps ih =>
    simp only [List.map_cons, List.prod_cons, Language.mem_mul, mem_wildcardPart_iff, ih, like_cons_iff]
    constructor
    · rintro ⟨covered, here, rest, later, rfl⟩
      exact ⟨covered, rest, rfl, here, later⟩
    · rintro ⟨covered, rest, rfl, here, later⟩
      exact ⟨covered, here, rest, later, rfl⟩

end Expressions

section Shapes

variable {s text : List Char}

theorem hasNewline_eq_false_iff : hasNewline text = false ↔ '\n' ∉ text := by
  rw [hasNewline, List.contains_eq_mem, decide_eq_false_iff_not]

theorem accepts_startingWith_iff :
    (startingWith s).accepts text = true ↔ ∃ back, text = s ++ back ∧ '\n' ∉ back := by
  rw [accepts, Bool.and_eq_true, Bool.not_eq_true', hasNewline_eq_false_iff, List.isPrefixOf_iff_prefix]
  constructor
  · rintro ⟨⟨back, rfl⟩, line⟩
    exact ⟨back, rfl, by simpa using line⟩
  · rintro ⟨back, rfl, line⟩
    exact ⟨List.prefix_append s back, by simpa using line⟩

theorem accepts_endingWith_iff :
    (endingWith s).accepts text = true ↔ ∃ front, text = front ++ s ∧ '\n' ∉ front := by
  rw [accepts, Bool.and_eq_true, Bool.not_eq_true', hasNewline_eq_false_iff, List.isSuffixOf_iff_suffix]
  constructor
  · rintro ⟨⟨front, rfl⟩, line⟩
    exact ⟨front, rfl, by simpa using line⟩
  · rintro ⟨front, rfl, line⟩
    exact ⟨List.suffix_append front s, by simpa using line⟩

/-- An occurrence that all newlines of the text are part of. -/
theorem accepts_containing_iff : (containing s).accepts text = true ↔
    ∃ front back, text = front ++ (s ++ back) ∧ '\n' ∉ front ∧ '\n' ∉ back := by
  rw [accepts]
  induction text with
  | nil => simp [containsOnLine]
  | cons c cs ih =>
    rw [containsOnLine, Bool.or_eq_true, Bool.and_eq_true, Bool.and_eq_true, ih, decide_eq_true_eq]
    have here : s.isPrefixOf (c :: cs) = true ∧ (!hasNewline ((c :: cs).drop s.length)) = true ↔
        ∃ back, c :: cs = s ++ back ∧ '\n' ∉ back := by
      rw [← accepts_startingWith_iff, accepts, Bool.and_eq_true]
    rw [here]
    constructor
    · rintro (⟨back, eq, line⟩ | ⟨start, front, back, rfl, line, line'⟩)
      · exact ⟨[], back, eq, List.not_mem_nil, line⟩
      · exact ⟨c :: front, back, rfl, by simp [start.symm, line], line'⟩
    · rintro ⟨front, back, eq, line, line'⟩
      cases front with
      | nil => exact .inl ⟨back, eq, line'⟩
      | cons d front =>
        obtain ⟨rfl, rfl⟩ := List.cons.inj eq
        rw [List.mem_cons, not_or] at line
        exact .inr ⟨Ne.symm line.1, front, back, rfl, line.2, line'⟩

/-- Wildcards are runs on both sides of what is left when they are trimmed. -/
theorem exists_trimPercent (ps : List Char) :
    ∃ m n, ps = List.replicate m '%' ++ (trimPercent ps ++ List.replicate n '%') := by
  have percents (cs : List Char) : cs.takeWhile (· = '%') = List.replicate (cs.takeWhile (· = '%')).length '%' :=
    List.eq_replicate_of_mem fun c hc => by simpa using List.all_eq_true.mp (List.all_takeWhile) c hc
  let rest := ps.dropWhile (· = '%')
  refine ⟨(ps.takeWhile (· = '%')).length, (rest.reverse.takeWhile (· = '%')).length, ?_⟩
  have back : rest = trimPercent ps ++ List.replicate (rest.reverse.takeWhile (· = '%')).length '%' := by
    rw [trimPercent, ← List.reverse_replicate, ← percents, ← List.reverse_append, List.takeWhile_append_dropWhile,
      List.reverse_reverse]
  rw [← percents, ← back, List.takeWhile_append_dropWhile]

theorem like_trimmed_iff (plain : ∀ c ∈ s, c ≠ '%' ∧ c ≠ '_') (m n : Nat) (text : List Char) :
    Like (List.replicate m '%' ++ (s ++ List.replicate n '%')) text ↔ ∃ front back, text = front ++ (s ++ back) ∧
      ('\n' ∉ front ∧ (m = 0 → front = [])) ∧ '\n' ∉ back ∧ (n = 0 → back = []) := by
  simp only [like_append_iff, like_runs_iff, like_literal_iff plain]
  constructor
  · rintro ⟨front, _, rfl, runs, _, back, rfl, rfl, runs'⟩
    exact ⟨front, back, rfl, runs, runs'⟩
  · rintro ⟨front, back, rfl, runs, runs'⟩
    exact ⟨front, s ++ back, rfl, runs, s, back, rfl, rfl, runs'⟩

theorem head?_trimmed (plain : '%' ∉ s) (m n : Nat) :
    (List.replicate m '%' ++ (s ++ List.replicate n '%')).head? = some '%' ↔ m ≠ 0 ∨ s = [] ∧ n ≠ 0 := by
  cases m with
  | succ m => simp [List.replicate_succ]
  | zero =>
    cases s with
    | nil => cases n <;> simp [List.replicate_succ]
    | cons c s => simpa using fun same : c = '%' => plain (same ▸ List.mem_cons_self)

theorem getLast?_trimmed (plain : '%' ∉ s) (m n : Nat) :
    (List.replicate m '%' ++ (s ++ List.replicate n '%')).getLast? = some '%' ↔ n ≠ 0 ∨ s = [] ∧ m ≠ 0 := by
  rw [← List.head?_reverse]
  simpa using head?_trimmed (s := s.reverse) (by simpa using plain) n m

/-- Wildcards of a simple shape are a text with runs before it or behind it, and their shape tells where. -/
theorem simple?_cases {ps : List Char} {pattern : Pattern} (simple : simple? ps = some pattern) :
    ∃ m n s, ps = List.replicate m '%' ++ (s ++ List.replicate n '%') ∧ (∀ c ∈ s, c ≠ '%' ∧ c ≠ '_') ∧
      (m = 0 ∧ n = 0 ∧ pattern = exact s ∨ m = 0 ∧ n ≠ 0 ∧ pattern = startingWith s ∨
        m ≠ 0 ∧ n = 0 ∧ pattern = endingWith s ∨ m ≠ 0 ∧ n ≠ 0 ∧ pattern = containing s ∨
        (m ≠ 0 ∨ n ≠ 0) ∧ s = [] ∧ pattern = everything) := by
  obtain ⟨m, n, eq⟩ := exists_trimPercent ps
  rw [simple?] at simple
  generalize trimPercent ps = s at eq simple
  split at simple
  case isTrue => contradiction
  case isFalse other =>
    rw [Bool.or_eq_true, not_or, List.contains_iff_mem, List.contains_iff_mem] at other
    have plain : ∀ c ∈ s, c ≠ '%' ∧ c ≠ '_' := by
      refine fun c hc => ⟨?_, ?_⟩
      · rintro rfl
        exact other.2 hc
      · rintro rfl
        exact other.1 (by simp [eq, hc])
    have opens : ps.head? = some '%' ↔ m ≠ 0 ∨ s = [] ∧ n ≠ 0 := by rw [eq, head?_trimmed other.2]
    have closes : ps.getLast? = some '%' ↔ n ≠ 0 ∨ s = [] ∧ m ≠ 0 := by rw [eq, getLast?_trimmed other.2]
    refine ⟨m, n, s, eq, plain, ?_⟩
    simp only [opens, closes, List.isEmpty_iff] at simple
    -- What is left to tell apart are the two runs and whether anything stands between them.
    clear opens closes eq plain other
    by_cases left : m = 0 <;> by_cases right : n = 0 <;> by_cases blank : s = [] <;> simp_all

theorem accepts_iff_of_simple? {ps : List Char} {pattern : Pattern} (simple : simple? ps = some pattern) :
    pattern.accepts text = true ↔ Like ps text := by
  obtain ⟨m, n, s, rfl, plain, shape⟩ := simple?_cases simple
  rw [like_trimmed_iff plain]
  rcases shape with ⟨rfl, rfl, rfl⟩ | ⟨rfl, right, rfl⟩ | ⟨left, rfl, rfl⟩ | ⟨left, right, rfl⟩ | ⟨some, rfl, rfl⟩
  case inl => simp +contextual [accepts]
  case inr.inl => simp +contextual [accepts_startingWith_iff, right]
  case inr.inr.inl => simp [accepts_endingWith_iff, left]
  case inr.inr.inr.inl => simp [accepts_containing_iff, left, right]
  case inr.inr.inr.inr =>
    simp only [accepts, Bool.not_eq_true', hasNewline_eq_false_iff, List.nil_append]
    constructor
    · intro line
      rcases some with left | right
      · exact ⟨text, [], by simp, ⟨line, by simp [left]⟩, by simp⟩
      · exact ⟨[], text, rfl, by simp, line, by simp [right]⟩
    · rintro ⟨front, back, rfl, ⟨line, _⟩, line', _⟩
      simp [line, line']

end Shapes

theorem build_cases {rules : RegexRules} {source : List Char} {pattern : Pattern}
    (built : build rules source = .ok pattern) :
    ∃ expression, rules.build source = .ok expression ∧ pattern = .regex expression := by
  rw [build] at built
  split at built
  case h_1 expression eq => exact ⟨expression, eq, (Except.ok.inj built).symm⟩
  case h_2 => contradiction

/-- Compiled wildcards accept the texts that the wildcards stand for, and only these. -/
theorem accepts_iff_like {rules : RegexRules} (documented : rules.MatchesParts) {wildcards : String} {pattern : Pattern}
    (compiled : compile rules .like wildcards = .ok pattern) (text : String) :
    pattern.accepts text.toList = true ↔ Like wildcards.toList text.toList := by
  rw [compile] at compiled
  cases simple : simple? wildcards.toList with
  | some shape =>
    rw [simple] at compiled
    cases compiled
    exact accepts_iff_of_simple? simple
  | none =>
    rw [simple] at compiled
    obtain ⟨expression, built, rfl⟩ := build_cases compiled
    rw [likeRegex_eq] at built
    rw [accepts, documented _ _ built, mem_wildcards_iff]

/-- Wildcards that a newline is part of stand for a text with one at its place. -/
theorem like_across_lines : (Regex.rules 10000).MatchesParts ∧
    ∃ pattern, compile (Regex.rules 10000) .like "%a_\nb%" = .ok pattern ∧
      pattern.accepts "xya.\nb".toList = true ∧ Like "%a_\nb%".toList "xya.\nb".toList := by
  have documented := Regex.rules_matchesParts 10000
  have compiled : ∃ pattern, compile (Regex.rules 10000) .like "%a_\nb%" = .ok pattern ∧
      pattern.accepts "xya.\nb".toList = true := ⟨_, rfl, by decide +kernel⟩
  obtain ⟨pattern, compiled, accepted⟩ := compiled
  exact ⟨documented, pattern, compiled, accepted, (accepts_iff_like documented compiled _).mp accepted⟩

end DocQuery.Pattern
