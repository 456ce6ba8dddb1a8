import DocQuery.Text.Split

/-! Sets of characters as ascending ranges of code points, written in hexadecimal. -/
namespace DocQuery.Unicode

/-- Each pair holds the first and the last code point of a range; the ranges ascend. -/
structure CodeRanges where
  ranges : List (Nat × Nat)

def hexValue (cs : List Char) : Nat :=
  cs.foldl (fun n c => n * 16 + if c.isDigit then c.toNat - 48 else c.toNat - 55) 0

namespace CodeRanges

/-- Reads ranges such as `41-5A 61-7A AA`, in capitals. -/
def ofText (text : String) : List (Nat × Nat) :=
  (splitAt ' ' text.toList).map fun range =>
    match splitAt '-' range with
    | [first, last] => (hexValue first, hexValue last)
    | _ => (hexValue range, hexValue range)

def ofLines (lines : List String) : CodeRanges := ⟨lines.flatMap ofText⟩

/-- The search ends at the first range that begins after the code point. -/
def search (code : Nat) : List (Nat × Nat) → Bool
  | [] => false
  | (first, last) :: rest =>
    if code < first then false
    else if code ≤ last then true
    else search code rest

def contains (s : CodeRanges) (c : Char) : Bool := search c.toNat s.ranges

end CodeRanges
end DocQuery.Unicode
