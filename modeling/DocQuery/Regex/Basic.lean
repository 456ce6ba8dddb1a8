import DocQuery.Regex.CharClass

/-! Regular expressions. Only whether a text matches can be asked, so the order of preference between
matches leaves no trace here. -/
namespace DocQuery

namespace Regex

/-- Places at the edges of words, seen from between two characters. -/
inductive WordEdge where
  | boundary
  | inside
  | start
  | finish
  | startHalf
  | finishHalf
  deriving DecidableEq

inductive Assertion where
  | textStart
  | textEnd
  | lineStart
  | lineEnd
  /-- At line ends of one carriage return, one newline, or both in this order. -/
  | lineStartAnyBreak
  | lineEndAnyBreak
  | word (edge : WordEdge) (ascii : Bool)
  deriving DecidableEq

def isWordChar (ascii : Bool) : Option Char → Bool
  | none => false
  | some c =>
    if ascii || c.toNat < 128 then CharClass.asciiWord.contains c else Unicode.wordRanges.contains c

def WordEdge.holds (before after : Bool) : WordEdge → Bool
  | boundary => before != after
  | inside => before == after
  | start => !before && after
  | finish => before && !after
  | startHalf => !before
  | finishHalf => !after

/-- Whether an assertion holds between two characters, none being the end of the text. -/
def Assertion.holds (before after : Option Char) : Assertion → Bool
  | textStart => before.isNone
  | textEnd => after.isNone
  | lineStart => before.isNone || before == some '\n'
  | lineEnd => after.isNone || after == some '\n'
  | lineStartAnyBreak =>
    before.isNone || before == some '\n' || (before == some '\r' && after != some '\n')
  | lineEndAnyBreak =>
    after.isNone || after == some '\r' || (after == some '\n' && before != some '\r')
  | word edge ascii => edge.holds (isWordChar ascii before) (isWordChar ascii after)

end Regex

inductive Regex where
  | empty
  | one (chars : Regex.CharClass)
  | assert (a : Regex.Assertion)
  | cat (a b : Regex)
  | alt (a b : Regex)
  /-- At least `least` times, and at most `most` times where that is given. -/
  | times (a : Regex) (least : Nat) (most : Option Nat)
  /-- A group that captures what it matches. -/
  | group (a : Regex)

namespace Regex

def concat : List Regex → Regex
  | [] => empty
  | [a] => a
  | a :: as => cat a (concat as)

/-- Meant for lists that are not empty. -/
def choice : List Regex → Regex
  | [] => empty
  | [a] => a
  | a :: as => alt a (choice as)

end Regex
end DocQuery
