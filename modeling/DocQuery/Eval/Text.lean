import DocQuery.Eval.Arithmetic
import DocQuery.Pattern.Basic
import DocQuery.Text.Search
import DocQuery.Unicode.Blank
import DocQuery.Unicode.Case

/-! Functions of texts, which count and cut in characters. -/
namespace DocQuery

def lengthValue (n : Nat) : Value := .integer (Int64.ofNat n)

namespace TextFunction

def countChars (f : Builtin) (o : Outcome) : Except EvalError Value := do
  match ← o.operand f with
  | .null => return .null
  | .string s => return lengthValue s.length
  | v => Outcome.mismatch f .string v

def countBytes (f : Builtin) (o : Outcome) : Except EvalError Value := do
  match ← o.operand f with
  | .null => return .null
  | .string s => return lengthValue s.utf8ByteSize
  | .bytes bs => return lengthValue bs.length
  | v => Outcome.mismatch f .string v

def join (f : Builtin) : List Outcome → Except EvalError String
  | [] => .ok ""
  | o :: rest => do
    let s ← o.string f
    return s ++ (← join f rest)

/-- Where a slice begins: a negative position counts from the end, and both ends are limits. -/
def sliceStart (count : Nat) (position : Int) : Nat :=
  if position < 0 then (count + position).toNat else min position.toNat count

/-- The characters from a position on, up to a number of them where one is given. -/
def slice (cs : List Char) (position : Int) (length : Option Int) : List Char :=
  let rest := cs.drop (sliceStart cs.length position)
  match length with
  | some n => rest.take n.toNat
  | none => rest

def cut (f : Builtin) (text position : Outcome) (length : Option Outcome) :
    Except EvalError Value := do
  let s ← text.string f
  let start ← position.integer f
  let count ← length.mapM (Outcome.integer f)
  if count.any fun n => n.toInt < 0 then throw (.invalidArgument f .negativeLength)
  return .string (.ofList (slice s.toList start.toInt (count.map Int64.toInt)))

def replace (f : Builtin) (times : Option Nat) (text find replacement : Outcome) :
    Except EvalError Value := do
  let s ← text.string f
  let needle ← find.string f
  let new ← replacement.string f
  return .string (.ofList (replaceText needle.toList new.toList times s.toList))

def transform (f : Builtin) (g : String → String) (o : Outcome) : Except EvalError Value := do
  return .string (g (← o.string f))

def reversed (s : String) : String := .ofList s.toList.reverse

def search (f : Builtin) (found : List Char → List Char → Bool) (text needle : Outcome) :
    Except EvalError Value := do
  let s ← text.string f
  let n ← needle.string f
  return .boolean (found n.toList s.toList)

end TextFunction

namespace PatternTest

def kind : PatternTest → PatternKind
  | like => .like
  | regexContains => .search
  | regexMatch => .fullMatch

/-- Both operands are read before the pattern is compiled. -/
def apply (rules : RegexRules) (p : PatternTest) (text pattern : Outcome) : Except EvalError Value := do
  let s ← text.string (.pattern p)
  let t ← pattern.string (.pattern p)
  match Pattern.compile rules p.kind t with
  | .ok compiled => return .boolean (compiled.accepts s.toList)
  | .error reason => throw (.invalidPattern t reason)

end PatternTest
end DocQuery
