import DocQuery.Proofs.Eval.Context
import DocQuery.Proofs.Pattern.Wildcards
import DocQuery.Proofs.Regex.WholeText

/-! Patterns for all of a text. As long as no parenthesis of its own closes the group that is put around it, such a
pattern is an expression by itself, and it accepts the texts that this one matches from end to end. -/
namespace DocQuery

/-- The text is refused for its size. -/
def RegexRules.TooLarge (rules : RegexRules) (source : List Char) : Prop :=
  ∃ reason, rules.build source = .error (.tooLarge reason)

/-- What is documented of the text of an expression: it is malformed iff it cannot be read, and what is built of it has
a match where the expression that is read has one. Nothing is said of which expressions are too large. -/
structure RegexRules.Documented (rules : RegexRules) (source : List Char) : Prop where
  malformed_iff : (∃ reason, rules.build source = .error (.malformed reason)) ↔
    ∃ fault, Regex.parse source = .error fault
  isMatch_iff : ∀ expression a, rules.build source = .ok expression → Regex.parse source = .ok a →
    ∀ text, expression.isMatch text = true ↔ ∃ i j, i ≤ text.length ∧ Regex.Spans text a i j

theorem Regex.rules_documented (limit : Nat) (source : List Char) : (rules limit).Documented source := by
  change RegexRules.Documented ⟨build limit, escape⟩ source
  constructor
  case malformed_iff =>
    simp only [build]
    split <;> rename_i eq
    · simp [eq]
    · split <;> simp [eq]
  case isMatch_iff =>
    intro expression a built read text
    simp only [build, read] at built
    split at built
    · cases built
      exact matchesIn_iff a text
    · contradiction

namespace Pattern

variable {rules : RegexRules} {p : String} {source : List Char} {a : Regex}

/-- A text that can be read is built unless it is too large. -/
theorem build_of_read (documented : rules.Documented source) (read : Regex.parse source = .ok a) :
    rules.TooLarge source ∨ ∃ pattern, build rules source = .ok pattern ∧
      ∀ text, pattern.accepts text = true ↔ ∃ i j, i ≤ text.length ∧ Regex.Spans text a i j := by
  cases built : rules.build source with
  | ok expression => exact .inr ⟨.regex expression, by rw [build, built], documented.isMatch_iff _ a built read⟩
  | error refusal =>
    cases refusal with
    | tooLarge reason => exact .inl ⟨reason, built⟩
    | malformed reason =>
      obtain ⟨fault, unread⟩ := documented.malformed_iff.mp ⟨reason, built⟩
      rw [read] at unread
      contradiction

theorem read_of_build {pattern : Pattern} (documented : rules.Documented source)
    (done : build rules source = .ok pattern) : ∃ a, Regex.parse source = .ok a ∧
      ∀ text, pattern.accepts text = true ↔ ∃ i j, i ≤ text.length ∧ Regex.Spans text a i j := by
  obtain ⟨expression, built, rfl⟩ := build_cases done
  cases read : Regex.parse source with
  | ok a => exact ⟨a, rfl, documented.isMatch_iff _ a built read⟩
  | error fault =>
    obtain ⟨reason, refused⟩ := documented.malformed_iff.mpr ⟨fault, read⟩
    rw [built] at refused
    contradiction

theorem build_of_unread {fault : Regex.Fault} (documented : rules.Documented source)
    (unread : Regex.parse source = .error fault) : ∃ reason, build rules source = .error reason := by
  obtain ⟨reason, refused⟩ := documented.malformed_iff.mpr ⟨fault, unread⟩
  exact ⟨reason, by rw [build, refused]; rfl⟩

/-- What can keep the text of an expression from being read with a group around it. -/
def enclosingFaults : List Regex.Fault := [.unclosedGroup, .nestedTooDeep]

variable (opened : Regex.parse p.toList ≠ .error .unopenedGroup)

include opened

/-- A pattern for all of a text is an expression by itself, and the ends of the text are all that is added. -/
theorem read_of_fullMatch {compiled : Pattern} (within : rules.Documented (wholeText p.toList))
    (done : compile rules .fullMatch p = .ok compiled) : ∃ a, Regex.parse p.toList = .ok a ∧
      ∀ text, compiled.accepts text = true ↔ Regex.Spans text a 0 text.length := by
  obtain ⟨b, read, accepts⟩ := read_of_build within done
  have enclosed := Regex.parse_wholeText opened
  rw [read] at enclosed
  generalize Regex.parse p.toList = alone at enclosed ⊢
  cases enclosed with
  | ok a => exact ⟨a, rfl, fun text => by rw [accepts, ← Regex.matchesIn_iff, Regex.matchesIn_whole_iff]⟩

theorem fullMatch_of_read (within : rules.Documented (wholeText p.toList)) (read : Regex.parse p.toList = .ok a) :
    (∃ compiled, compile rules .fullMatch p = .ok compiled) ∨ rules.TooLarge (wholeText p.toList) ∨
      ∃ fault ∈ enclosingFaults, Regex.parse (wholeText p.toList) = .error fault := by
  have enclosed := Regex.parse_wholeText opened
  rw [read] at enclosed
  cases enclosing : Regex.parse (wholeText p.toList) with
  | ok b =>
    rcases build_of_read within enclosing with large | ⟨pattern, built, _⟩
    · exact .inr (.inl large)
    · exact .inl ⟨pattern, built⟩
  | error fault =>
    rw [enclosing] at enclosed
    cases enclosed with
    | unclosed => exact .inr (.inr ⟨_, by simp [enclosingFaults], rfl⟩)
    | tooDeep => exact .inr (.inr ⟨_, by simp [enclosingFaults], rfl⟩)

theorem fullMatch_of_unread {fault : Regex.Fault} (within : rules.Documented (wholeText p.toList))
    (unread : Regex.parse p.toList = .error fault) : ∃ reason, compile rules .fullMatch p = .error reason := by
  have enclosed := Regex.parse_wholeText opened
  rw [unread] at enclosed
  generalize enclosing : Regex.parse (wholeText p.toList) = read at enclosed
  cases enclosed with
  | error _ fault' => exact build_of_unread within enclosing

end Pattern

section Calls

/-- Unless its own parentheses close a group that they did not open, a pattern compiles for all of a text only if it is
an expression by itself, which compiles unless it is too large. It accepts the texts that the expression matches from
their start to their end. An expression compiles for all of a text unless it is too large or one of two faults comes
from the group around it. Tests with a pattern say of their text whether it is matched, or they fail for the pattern, as
they do if it is no expression by itself. -/
theorem regexMatch_whole (rules : RegexRules) (p : String) (alone : rules.Documented p.toList)
    (within : rules.Documented (Pattern.wholeText p.toList)) (opened : Regex.parse p.toList ≠ .error .unopenedGroup) :
    (∀ compiled, Pattern.compile rules .fullMatch p = .ok compiled →
      ∃ a, Regex.parse p.toList = .ok a ∧
        (∀ text, compiled.accepts text = true ↔ Regex.Spans text a 0 text.length) ∧
        (rules.TooLarge p.toList ∨ ∃ search, Pattern.compile rules .search p = .ok search ∧
          ∀ text, search.accepts text = true ↔ ∃ i j, i ≤ text.length ∧ Regex.Spans text a i j)) ∧
    (∀ search, Pattern.compile rules .search p = .ok search →
      (∃ compiled, Pattern.compile rules .fullMatch p = .ok compiled) ∨
        rules.TooLarge (Pattern.wholeText p.toList) ∨
        ∃ fault ∈ Pattern.enclosingFaults, Regex.parse (Pattern.wholeText p.toList) = .error fault) ∧
    ∀ (row : Row) (e text pattern : Expr) (s : String),
      e.application? = some (.pattern .regexMatch, [text, pattern]) →
      evaluate rules row text = .value (.string s) → evaluate rules row pattern = .value (.string p) →
        ((∃ a b, Regex.parse p.toList = .ok a ∧ evaluate rules row e = .boolean b ∧
          (b = true ↔ Regex.Spans s.toList a 0 s.toList.length)) ∨
          ∃ reason, evaluate rules row e = .error (.invalidPattern p reason)) ∧
        ∀ fault, Regex.parse p.toList = .error fault →
          ∃ reason, evaluate rules row e = .error (.invalidPattern p reason) := by
  refine ⟨fun compiled done => ?_, fun search done => ?_, ?_⟩
  · obtain ⟨a, read, accepts⟩ := Pattern.read_of_fullMatch opened within done
    exact ⟨a, read, accepts, Pattern.build_of_read alone read⟩
  · obtain ⟨a, read, _⟩ := Pattern.read_of_build alone done
    exact Pattern.fullMatch_of_read opened within read
  intro row e text pattern s call text_eq pattern_eq
  have applied : evaluate rules row e = _ := evaluate_application call rules row
  rw [List.map_cons, List.map_cons, text_eq, pattern_eq, List.map_nil, apply_pattern] at applied
  rw [applied, PatternCache.compiled]
  cases done : Pattern.compile rules PatternTest.regexMatch.kind p with
  | error reason => exact ⟨.inr ⟨reason, rfl⟩, fun _ _ => ⟨reason, rfl⟩⟩
  | ok compiled =>
    refine ⟨?_, fun fault unread => ?_⟩
    · obtain ⟨a, read, accepts⟩ := Pattern.read_of_fullMatch opened within done
      exact .inl ⟨a, _, read, rfl, accepts s.toList⟩
    · obtain ⟨reason, refused⟩ := Pattern.fullMatch_of_unread opened within unread
      change Pattern.compile rules .fullMatch p = .ok compiled at done
      rw [done] at refused
      contradiction

/-- Of the texts, the alternatives match just their own; a pattern with a group that is never closed matches none. -/
theorem regexMatch_whole_of_alternatives :
    let rules := Regex.rules 1048576
    let call (s p : String) : Expr :=
      .condition (.pattern .regexMatch) [.constant (.string s), .constant (.string p)] rfl
    let outcome := evaluate rules (.ofFields [])
    (∀ source, rules.Documented source) ∧
      Regex.parse "a|b".toList ≠ .error .unopenedGroup ∧
      (∃ a, Regex.parse "a|b".toList = .ok a ∧ Regex.Spans "b".toList a 0 1 ∧ ¬Regex.Spans "ab".toList a 0 2) ∧
      Regex.parse "(a".toList ≠ .error .unopenedGroup ∧
      ∃ reason, outcome (call "a" "(a") = .error (.invalidPattern "(a" reason) := by
  intro rules call outcome
  have documented (source : List Char) : rules.Documented source := Regex.rules_documented 1048576 source
  have opened : Regex.parse "a|b".toList ≠ .error .unopenedGroup := nofun
  have opened' : Regex.parse "(a".toList ≠ .error .unopenedGroup := nofun
  have unread : Regex.parse "(a".toList = .error .unclosedGroup := rfl
  have compiled : ∃ compiled, Pattern.compile rules .fullMatch "a|b" = .ok compiled ∧
      compiled.accepts "b".toList = true ∧ compiled.accepts "ab".toList = false := ⟨_, rfl, rfl, rfl⟩
  obtain ⟨compiled, done, b, ab⟩ := compiled
  obtain ⟨a, read, spans, _⟩ := (regexMatch_whole rules "a|b" (documented _) (documented _) opened).1 compiled done
  refine ⟨documented, opened, ⟨a, read, (spans _).mp b, fun wrong => ?_⟩, opened', ?_⟩
  · rw [(spans "ab".toList).mpr wrong] at ab
    contradiction
  · obtain ⟨_, _, refused⟩ := regexMatch_whole rules "(a" (documented _) (documented _) opened'
    exact (refused (.ofFields []) (call "a" "(a") _ _ "a" rfl rfl rfl).2 _ unread

/-- Parentheses that close the group around the pattern and open another one make an expression of what is none. -/
theorem regexMatch_of_crossed_groups :
    let rules := Regex.rules 1048576
    let call (s p : String) : Expr :=
      .condition (.pattern .regexMatch) [.constant (.string s), .constant (.string p)] rfl
    let outcome := evaluate rules (.ofFields [])
    (∀ source, rules.Documented source) ∧
      (∀ p ∈ ["a)(b", "a)|(b"], (∃ reason, Pattern.compile rules .search p = .error reason) ∧
        ∃ compiled, Pattern.compile rules .fullMatch p = .ok compiled) ∧
      outcome (call "ab" "a)(b") = .boolean true ∧ outcome (call "ax" "a)|(b") = .boolean true ∧
      outcome (call "xa" "a)|(b") = .boolean false := by
  intro rules call outcome
  refine ⟨Regex.rules_documented 1048576, ?_, rfl, rfl, rfl⟩
  intro p member
  simp only [List.mem_cons, List.not_mem_nil, or_false] at member
  rcases member with rfl | rfl <;> exact ⟨⟨_, rfl⟩, _, rfl⟩

end Calls
end DocQuery
