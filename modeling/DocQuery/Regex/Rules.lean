/-! What patterns ask of regular expressions. Which texts are expressions, which of these are too large and what they
match is for a library to say. -/
namespace DocQuery

/-- An expression that has been built. All that it is asked is whether it matches anywhere in a text. -/
structure CompiledRegex where
  isMatch : List Char → Bool

/-- Why nothing is built from a text: it is no expression, or it takes more than it may. -/
inductive RegexRefusal where
  | malformed (reason : String)
  | tooLarge (reason : String)

def RegexRefusal.reason : RegexRefusal → String
  | malformed reason => reason
  | tooLarge reason => reason

/-- The rules of a library under one limit for the size of expressions: what it builds from a text, and how a text is
written that only matches itself. -/
structure RegexRules where
  build (source : List Char) : Except RegexRefusal CompiledRegex
  escape (text : List Char) : List Char

/-- The rules under each limit. -/
abbrev RegexLibrary := Nat → RegexRules

end DocQuery
