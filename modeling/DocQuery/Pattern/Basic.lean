import DocQuery.Regex.Rules

/-! Patterns that texts are matched with: wildcards over a whole text, and regular expressions
anywhere in it or over all of it. Wildcards never cover a newline. -/
namespace DocQuery

inductive PatternKind where
  | like
  | search
  | fullMatch
  deriving DecidableEq

/-- Wildcards of simple shapes need no expression. -/
inductive Pattern where
  | exact (s : List Char)
  | startingWith (s : List Char)
  | endingWith (s : List Char)
  | containing (s : List Char)
  | everything
  | regex (expression : CompiledRegex)

namespace Pattern

def hasNewline (cs : List Char) : Bool := cs.contains '\n'

/-- Whether a text occurs with no newline before it and none after it. -/
def containsOnLine (s : List Char) : List Char → Bool
  | [] => s.isEmpty
  | c :: cs =>
    (s.isPrefixOf (c :: cs) && !hasNewline ((c :: cs).drop s.length)) ||
      (c ≠ '\n' && containsOnLine s cs)

def accepts (text : List Char) : Pattern → Bool
  | exact s => text == s
  | startingWith s => s.isPrefixOf text && !hasNewline (text.drop s.length)
  | endingWith s => s.isSuffixOf text && !hasNewline (text.take (text.length - s.length))
  | containing s => containsOnLine s text
  | everything => !hasNewline text
  | regex expression => expression.isMatch text

def trimPercent (cs : List Char) : List Char :=
  ((cs.dropWhile (· = '%')).reverse.dropWhile (· = '%')).reverse

/-- Wildcards without `_` and with `%` at the ends only. -/
def simple? (cs : List Char) : Option Pattern :=
  let inner := trimPercent cs
  if cs.contains '_' || inner.contains '%' then none
  else
    let opens := cs.head? = some '%'
    let closes := cs.getLast? = some '%'
    if inner.isEmpty ∧ (opens ∨ closes) then some everything
    else if opens ∧ closes then some (containing inner)
    else if opens then some (endingWith inner)
    else if closes then some (startingWith inner)
    else some (exact inner)

/-- The text of an expression for what one character of a pattern stands for. -/
def likePart (rules : RegexRules) (c : Char) : List Char :=
  if c = '%' then ['.', '*'] else if c = '_' then ['.'] else rules.escape [c]

def likeRegex (rules : RegexRules) (cs : List Char) : List Char := cs.flatMap (likePart rules)

/-- The text of an expression for all of a text. It is put together before it is read. -/
def wholeText (cs : List Char) : List Char := "^(?:".toList ++ cs ++ ")$".toList

def build (rules : RegexRules) (source : List Char) : Except String Pattern :=
  match rules.build source with
  | .ok expression => .ok (.regex expression)
  | .error refusal => .error refusal.reason

/-- Compiles a pattern, or tells why there is none. -/
def compile (rules : RegexRules) (kind : PatternKind) (text : String) : Except String Pattern :=
  match kind with
  | .like =>
    match simple? text.toList with
    | some pattern => .ok pattern
    | none => build rules (wholeText (likeRegex rules text.toList))
  | .search => build rules text.toList
  | .fullMatch => build rules (wholeText text.toList)

end Pattern
end DocQuery
