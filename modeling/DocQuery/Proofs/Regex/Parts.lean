import Mathlib.Computability.Language
import DocQuery.Pattern.Basic
import DocQuery.Proofs.Regex.Spans
import DocQuery.Proofs.Regex.WholeText
import DocQuery.Regex.Library

/-! Texts for expressions that are put together from escaped characters and dots. They are documented to match the
texts of a language; the expressions that are read of them here do. -/
namespace DocQuery

open scoped Computability

/-- A character that is escaped, a dot, or a dot that is repeated. -/
inductive RegexPart where
  | char (c : Char)
  | dot
  | dots

namespace RegexPart

/-- How the part is written. -/
def source (rules : RegexRules) : RegexPart → List Char
  | char c => rules.escape [c]
  | dot => ['.']
  | dots => ['.', '*']

/-- The texts of one character that is no newline. -/
def anyChar : Language Char := {text | ∃ c, c ≠ '\n' ∧ text = [c]}

/-- The texts that the part matches. -/
def language : RegexPart → Language Char
  | char c => {[c]}
  | dot => anyChar
  | dots => anyChar∗

theorem mem_language_char {c : Char} {text : List Char} : text ∈ (char c).language ↔ text = [c] := Iff.rfl

theorem mem_language_dot {text : List Char} : text ∈ dot.language ↔ ∃ c, c ≠ '\n' ∧ text = [c] := Iff.rfl

theorem mem_language_dots {text : List Char} : text ∈ dots.language ↔ '\n' ∉ text := by
  rw [language, Language.mem_kstar]
  constructor
  · rintro ⟨pieces, rfl, dotted⟩ newline
    obtain ⟨piece, member, inside⟩ := List.mem_flatten.mp newline
    obtain ⟨c, line, rfl⟩ := dotted piece member
    exact line (List.mem_singleton.mp inside).symm
  · intro line
    refine ⟨text.map ([·]), by simp [← List.flatMap_def], fun piece member => ?_⟩
    obtain ⟨c, inside, rfl⟩ := List.mem_map.mp member
    exact ⟨c, fun same => line (same ▸ inside), rfl⟩

end RegexPart

/-- What is documented of expressions that consist of such parts: one that is built for all of a text matches a text iff
the text is in the language of the parts. -/
def RegexRules.MatchesParts (rules : RegexRules) : Prop :=
  ∀ (parts : List RegexPart) (expression : CompiledRegex),
    rules.build (Pattern.wholeText (parts.flatMap (·.source rules))) = .ok expression →
      ∀ text, expression.isMatch text = true ↔ text ∈ (parts.map (·.language)).prod

namespace Regex

/-- Any character but a newline. -/
def dot : Regex := one (.complement (.single '\n'))

/-- The expression that is read of a part. -/
def ofPart : RegexPart → Regex
  | .char c => one (.single c)
  | .dot => dot
  | .dots => times dot 0 none

section Reading

/-- The part as the reader keeps it. -/
def partItem : RegexPart → Item
  | .dots => ⟨ofPart .dots, 1, true⟩
  | part => .leaf (ofPart part)

variable {r r' : Reader} {limit n : Nat} {c : Char} {cs rest : List Char}

theorem readEscape_meta (special : isMeta c = true) : readEscape {} (c :: rest) = .ok (.char c false, rest) := by
  have escapable : "\\.+*?()|[]\x7b\x7d^$#&-~".toList.all (fun c => isEscapable c && !c.isDigit &&
      !(['x', 'u', 'U', 'p', 'P', 'd', 's', 'w', 'D', 'S', 'W'].contains c)) = true := by decide +kernel
  have every := List.all_eq_true.mp escapable c (List.contains_iff_mem.mp special)
  simp only [Bool.and_eq_true, Bool.not_eq_true', List.contains_eq_mem, decide_eq_false_iff_not, List.mem_cons,
    List.not_mem_nil, or_false, not_or] at every
  obtain ⟨⟨punctuation, digit⟩, letter⟩ := every
  simp [readEscape, punctuation, digit, letter]

theorem readToken_plain (plain : isMeta c = false) :
    readToken r c rest = (do return (r.push (.leaf (← atomRegex r.flags (.char c false))), rest)) := by
  unfold readToken
  -- A character that another token begins with means something.
  split <;> first | rfl | exact absurd plain (by decide)

theorem escape_cases (c : Char) :
    isMeta c = true ∧ escape [c] = ['\\', c] ∨ isMeta c = false ∧ escape [c] = [c] := by
  cases special : isMeta c <;> simp [escape, special]

/-- An escaped character is one token. -/
theorem readToken_escaped (flags : r.flags = {}) (c : Char) (rest : List Char) : ∃ d ds, escape [c] ++ rest = d :: ds ∧
    rest.length ≤ ds.length ∧ readToken r d ds = .ok (r.push (.leaf (one (.single c))), rest) := by
  rcases escape_cases c with ⟨special, text⟩ | ⟨plain, text⟩
  · refine ⟨'\\', c :: rest, by rw [text]; rfl, by simp, ?_⟩
    rw [readToken, flags, readEscape_meta special]
    rfl
  · refine ⟨c, rest, by rw [text]; rfl, le_refl _, ?_⟩
    rw [readToken_plain plain, flags]
    rfl

theorem readToken_dot (flags : r.flags = {}) (rest : List Char) :
    readToken r '.' rest = .ok (r.push (.leaf dot), rest) := by
  rw [readToken, flags]
  rfl

theorem readTokens_token (flags : r.flags = {}) (n : Nat) (read : readToken r c cs = .ok (r', rest)) :
    readTokens (n + 1) r (c :: cs) = readTokens n r' rest := by
  have unskipped : skip r.flags (c :: cs) = c :: cs := by rw [flags]; rfl
  rw [readTokens_cons n unskipped, read]
  rfl

/-- No part begins with a question mark, which would be read as one of the repetition before it. -/
theorem skipLazy_source (part : RegexPart) (rest : List Char) :
    skipLazy (part.source (rules limit) ++ rest) = part.source (rules limit) ++ rest := by
  cases part with
  | char c =>
    change skipLazy (escape [c] ++ rest) = escape [c] ++ rest
    rcases escape_cases c with ⟨_, text⟩ | ⟨plain, text⟩
    · rw [text]
      rfl
    · rw [text, List.singleton_append, skipLazy]
      rintro _ ⟨⟩
      exact absurd plain (by decide)
  | dot => rfl
  | dots => rfl

theorem readTokens_part (part : RegexPart) (flags : r.flags = {}) (firm : skipLazy rest = rest)
    (enough : (part.source (rules limit) ++ rest).length < n) : ∃ m, rest.length < m ∧
      readTokens n r (part.source (rules limit) ++ rest) = readTokens m (r.push (partItem part)) rest := by
  obtain ⟨n, rfl⟩ := Nat.exists_eq_add_one_of_ne_zero (Nat.ne_zero_of_lt enough)
  cases part with
  | char c =>
    obtain ⟨d, ds, text, shorter, read⟩ := readToken_escaped flags c rest
    change (escape [c] ++ rest).length < n + 1 at enough
    change ∃ m, rest.length < m ∧ readTokens (n + 1) r (escape [c] ++ rest) = _
    rw [text, List.length_cons] at enough
    rw [text]
    exact ⟨n, by omega, readTokens_token flags n read⟩
  | dot => exact ⟨n, Nat.succ_lt_succ_iff.mp enough, readTokens_token flags n (readToken_dot flags rest)⟩
  | dots =>
    obtain ⟨n, rfl⟩ := Nat.exists_eq_add_one_of_ne_zero (Nat.ne_zero_of_lt (Nat.succ_lt_succ_iff.mp enough))
    refine ⟨n, Nat.succ_lt_succ_iff.mp (Nat.succ_lt_succ_iff.mp enough), ?_⟩
    have repeated : readToken (r.push (.leaf dot)) '*' rest = .ok (r.push (partItem .dots), rest) := by
      rw [readToken, firm]
      rfl
    change readTokens (n + 1 + 1) r ('.' :: '*' :: rest) = _
    rw [readTokens_token flags (n + 1) (readToken_dot flags _),
      readTokens_token (r := r.push (.leaf dot)) flags n repeated]

theorem readTokens_parts (parts : List RegexPart) (flags : r.flags = {}) (firm : skipLazy rest = rest)
    (enough : (parts.flatMap (·.source (rules limit)) ++ rest).length < n) : ∃ m, rest.length < m ∧
      readTokens n r (parts.flatMap (·.source (rules limit)) ++ rest) =
        readTokens m { r with items := (parts.map partItem).reverse ++ r.items } rest := by
  induction parts generalizing r n with
  | nil => exact ⟨n, enough, rfl⟩
  | cons part parts ih =>
    rw [List.flatMap_cons, List.append_assoc] at enough ⊢
    have firm' : skipLazy (parts.flatMap (·.source (rules limit)) ++ rest) =
        parts.flatMap (·.source (rules limit)) ++ rest := by
      cases parts with
      | nil => exact firm
      | cons next parts =>
        rw [List.flatMap_cons, List.append_assoc]
        exact skipLazy_source next _
    obtain ⟨m, more, read⟩ := readTokens_part part flags firm' enough
    obtain ⟨k, least, reads⟩ := ih (r := r.push (partItem part)) flags more
    refine ⟨k, least, ?_⟩
    rw [read, reads]
    simp [Reader.push]

theorem concatItems_parts (parts : List RegexPart) :
    (concatItems (parts.map partItem).reverse).regex = concat (parts.map ofPart) := by
  have regex (part : RegexPart) : (partItem part).regex = ofPart part := by cases part <;> rfl
  have regexes : (parts.map partItem).map (·.regex) = parts.map ofPart := by
    simp [Function.comp_def, regex]
  rw [← regexes]
  generalize parts.map partItem = items
  obtain ⟨items, rfl⟩ := items.reverse_surjective
  rw [List.reverse_reverse]
  match items with
  | [] => rfl
  | [item] => rfl
  | _ :: _ :: _ => simp [concatItems]

theorem depth_concatItems {items : List Item} {depth : Nat} (bound : ∀ item ∈ items, item.depth ≤ depth) :
    (concatItems items).depth ≤ depth + 1 := by
  have all : deepest items ≤ depth :=
    List.foldlRecOn (motive := (· ≤ depth)) items _ (Nat.zero_le _)
      fun _ seen item member => Nat.max_le.mpr ⟨seen, bound item member⟩
  match items with
  | [] => exact Nat.zero_le _
  | [item] => exact Nat.le_succ_of_le (bound item List.mem_cons_self)
  | _ :: _ :: _ => exact Nat.succ_le_succ all

/-- All of a text is asked to consist of the parts. -/
theorem parse_parts (limit : Nat) (parts : List RegexPart) :
    parse (Pattern.wholeText (parts.flatMap (·.source (rules limit)))) = .ok (whole (concat (parts.map ofPart))) := by
  let r : Reader := { items := (parts.map partItem).reverse }
  have body : r.body = concatItems (parts.map partItem).reverse := rfl
  have shallow : ¬maximalNesting < r.body.depth + 2 := by
    have depth : r.body.depth ≤ 1 + 1 := by
      refine depth_concatItems fun item member => ?_
      obtain ⟨part, _, rfl⟩ := List.mem_map.mp (List.mem_reverse.mp member)
      cases part <;> simp [partItem, Item.leaf]
    simp only [maximalNesting]
    omega
  have room : (parts.flatMap (·.source (rules limit)) ++ closing).length <
      (parts.flatMap (·.source (rules limit))).length + 5 := by simp [closing]
  obtain ⟨m, enough, read⟩ := readTokens_parts (r := Reader.under {} wholeFrame) parts rfl rfl room
  have state : { Reader.under {} wholeFrame with
      items := (parts.map partItem).reverse ++ (Reader.under {} wholeFrame).items } = r.under wholeFrame := by
    simp [Reader.under, r]
  have added : skip r.flags closing = closing := rfl
  obtain ⟨closed, closes, ends⟩ := readTokens_closing (f := wholeFrame) added enough
  rw [parse_wholeText_eq, read, state, ends]
  change finish closed.ended = _
  rw [finish_ended rfl closes, if_neg shallow, body, concatItems_parts]

end Reading

section Matches

variable {text : List Char} {i j : Nat}

theorem contains_single_iff {c d : Char} : (CharClass.single c).contains d = true ↔ d = c := by
  simp only [CharClass.single, CharClass.contains, Bool.and_eq_true, decide_eq_true_eq]
  rw [← Nat.le_antisymm_iff, Char.toNat_inj, eq_comm]

theorem spans_dot_iff : Spans text dot i j ↔ j = i + 1 ∧ ∃ c, c ≠ '\n' ∧ text.drop i = c :: text.drop j := by
  simp only [dot, spans_one_iff, CharClass.contains, Bool.not_eq_true', ← Bool.not_eq_true, contains_single_iff, ne_eq]

theorem repeats_dot_iff (n : Nat) : Repeats (Spans text dot) n i j ↔
    j = i + n ∧ ∃ covered, covered.length = n ∧ '\n' ∉ covered ∧ text.drop i = covered ++ text.drop j := by
  induction n generalizing i with
  | zero =>
    simp only [Repeats, Nat.add_zero, List.length_eq_zero_iff, exists_eq_left, List.not_mem_nil, not_false_eq_true,
      true_and, List.nil_append, eq_comm (a := i)]
    exact (and_iff_left_of_imp fun same => by rw [same]).symm
  | succ n ih =>
    simp only [Repeats, spans_dot_iff, ih]
    constructor
    · rintro ⟨_, ⟨rfl, c, line, first⟩, rfl, covered, rfl, line', rest⟩
      refine ⟨by omega, c :: covered, rfl, by simp [line.symm, line'], ?_⟩
      rw [first, rest, List.cons_append]
    · rintro ⟨rfl, covered, size, line, eq⟩
      obtain ⟨c, rest, rfl⟩ := List.exists_cons_of_length_eq_add_one size
      rw [List.mem_cons, not_or] at line
      have tail : text.drop (i + 1) = rest ++ text.drop (i + (n + 1)) := by
        rw [← List.drop_drop, eq]
        rfl
      exact ⟨i + 1, ⟨rfl, c, Ne.symm line.1, by rw [eq, tail, List.cons_append]⟩, by omega, rest,
        Nat.succ_inj.mp size, line.2, tail⟩

theorem spans_ofPart_iff (part : RegexPart) : Spans text (ofPart part) i j ↔
    ∃ covered ∈ part.language, j = i + covered.length ∧ text.drop i = covered ++ text.drop j := by
  cases part with
  | char c => simp [ofPart, RegexPart.mem_language_char, spans_one_iff, contains_single_iff]
  | dot =>
    simp only [ofPart, RegexPart.mem_language_dot, spans_dot_iff]
    constructor
    · rintro ⟨rfl, c, line, eq⟩
      exact ⟨[c], ⟨c, line, rfl⟩, rfl, eq⟩
    · rintro ⟨_, ⟨c, line, rfl⟩, rfl, eq⟩
      exact ⟨rfl, c, line, eq⟩
  | dots =>
    simp only [ofPart, RegexPart.mem_language_dots, Spans, repeats_dot_iff, Option.mem_def, reduceCtorEq,
      false_implies, implies_true, true_and, Nat.zero_add]
    constructor
    · rintro ⟨_, rfl, covered, rfl, line, eq⟩
      exact ⟨covered, line, rfl, eq⟩
    · rintro ⟨covered, line, rfl, eq⟩
      exact ⟨_, rfl, covered, rfl, line, eq⟩

/-- From a position on, the parts match up to the end the texts of their language. -/
theorem spans_parts_iff (parts : List RegexPart) (inside : i ≤ text.length) :
    Spans text (concat (parts.map ofPart)) i text.length ↔ text.drop i ∈ (parts.map (·.language)).prod := by
  induction parts generalizing i with
  | nil =>
    rw [List.map_nil, concat, Spans, List.map_nil, List.prod_nil, Language.mem_one, List.drop_eq_nil_iff]
    omega
  | cons part parts ih =>
    simp only [List.map_cons, spans_concat_cons, spans_ofPart_iff, List.prod_cons, Language.mem_mul]
    constructor
    · rintro ⟨k, ⟨covered, here, rfl, eq⟩, later⟩
      have bound := forward_spans text _ _ _ later
      exact ⟨covered, here, _, (ih (by omega)).mp later, eq.symm⟩
    · rintro ⟨covered, here, rest, later, eq⟩
      have tail : text.drop (i + covered.length) = rest := by rw [← List.drop_drop, ← eq, List.drop_left]
      have size := congrArg List.length eq
      rw [List.length_drop, List.length_append] at size
      exact ⟨_, ⟨covered, here, rfl, by rw [tail, eq]⟩, (ih (by omega)).mpr (tail ▸ later)⟩

/-- What is read of the parts matches the texts of their language. -/
theorem rules_matchesParts (limit : Nat) : (rules limit).MatchesParts := by
  intro parts expression built text
  change build limit _ = _ at built
  rw [build, parse_parts] at built
  dsimp only at built
  split at built
  · cases built
    change (whole _).matchesIn text = true ↔ _
    rw [matchesIn_whole_iff, spans_parts_iff parts (Nat.zero_le _), List.drop_zero]
  · contradiction

end Matches
end Regex
end DocQuery
