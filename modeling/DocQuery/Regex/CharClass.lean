import DocQuery.Unicode.Blank
import DocQuery.Unicode.Case
import DocQuery.Unicode.Lookup
import DocQuery.Unicode.Word

/-! Classes of characters, built from ranges and tables by set operations. -/
namespace DocQuery.Regex

inductive CharClass where
  | none
  | range (first last : Nat)
  | table (ranges : Unicode.CodeRanges)
  | union (a b : CharClass)
  | inter (a b : CharClass)
  | complement (a : CharClass)
  /-- All that differ in case only from a member. -/
  | folded (a : CharClass)
  /-- The same for the letters of ASCII. -/
  | asciiFolded (a : CharClass)

namespace CharClass

def asciiVariants (c : Char) : List Char :=
  if c.isUpper then [c, c.toLower] else if c.isLower then [c, c.toUpper] else [c]

def contains : CharClass → Char → Bool
  | none, _ => false
  | range first last, c => first ≤ c.toNat && c.toNat ≤ last
  | table ranges, c => ranges.contains c
  | union a b, c => a.contains c || b.contains c
  | inter a b, c => a.contains c && b.contains c
  | complement a, c => !a.contains c
  | folded a, c => (Unicode.caseVariants c).any fun v => a.contains v
  | asciiFolded a, c => (asciiVariants c).any fun v => a.contains v

def single (c : Char) : CharClass := range c.toNat c.toNat

def any : CharClass := complement none

def ofList (ranges : List (Nat × Nat)) : CharClass :=
  ranges.foldr (fun (first, last) rest => union (range first last) rest) none

def difference (a b : CharClass) : CharClass := inter a (complement b)

def symmetricDifference (a b : CharClass) : CharClass := union (difference a b) (difference b a)

def ofNamed : Unicode.NamedSet → CharClass
  | .ranges ranges => table ranges
  | .unionOf sets => sets.foldr (fun ranges rest => union (table ranges) rest) none
  | .complementOf ranges => complement (table ranges)

/-- Whether no byte above ASCII is in the class, when bytes stand for the first code points. -/
def isAscii (a : CharClass) : Bool :=
  (List.range 128).all fun i => !a.contains (Char.ofNat (128 + i))

def asciiDigit : CharClass := range 48 57
def asciiBlank : CharClass := ofList [(9, 13), (32, 32)]
def asciiWord : CharClass := ofList [(48, 57), (65, 90), (95, 95), (97, 122)]

/-- The classes of ASCII characters that have a name in brackets. -/
def posix? : String → Option CharClass
  | "alnum" => some (ofList [(48, 57), (65, 90), (97, 122)])
  | "alpha" => some (ofList [(65, 90), (97, 122)])
  | "ascii" => some (range 0 127)
  | "blank" => some (ofList [(9, 9), (32, 32)])
  | "cntrl" => some (ofList [(0, 31), (127, 127)])
  | "digit" => some asciiDigit
  | "graph" => some (range 33 126)
  | "lower" => some (range 97 122)
  | "print" => some (range 32 126)
  | "punct" => some (ofList [(33, 47), (58, 64), (91, 96), (123, 126)])
  | "space" => some asciiBlank
  | "upper" => some (range 65 90)
  | "word" => some asciiWord
  | "xdigit" => some (ofList [(48, 57), (65, 70), (97, 102)])
  | _ => Option.none

end CharClass
end DocQuery.Regex
