import DocQuery.Regex.CharClass

/-! The members of a class as ascending ranges of code points, and the ranges of bytes that they are
encoded with. -/
namespace DocQuery.Regex

/-- Joins ranges that overlap or touch, given by ascending first code points. -/
def joinRanges : List (Nat × Nat) → List (Nat × Nat)
  | (a, b) :: (c, d) :: rest =>
    if c ≤ b + 1 then joinRanges ((a, max b d) :: rest) else (a, b) :: joinRanges ((c, d) :: rest)
  | ranges => ranges
termination_by ranges => ranges.length

def sortRanges (ranges : List (Nat × Nat)) : List (Nat × Nat) :=
  joinRanges (ranges.mergeSort fun r s => r.1 ≤ s.1)

/-- What ranges leave out, from a code point on. -/
def gaps (first : Nat) : List (Nat × Nat) → List (Nat × Nat)
  | [] => if first ≤ 0x10FFFF then [(first, 0x10FFFF)] else []
  | (a, b) :: rest =>
    if first < a then (first, a - 1) :: gaps (b + 1) rest else gaps (b + 1) rest

/-- How many characters are folded one by one. -/
def foldLimit : Nat := 300

/-- The ranges of all variants of a few characters. More characters are taken to be closed under the
change of case, as letters in their thousands nearly are. -/
def variantRanges (variants : Char → List Char) (ranges : List (Nat × Nat)) : List (Nat × Nat) :=
  let count := ranges.foldl (fun n range => n + (range.2 + 1 - range.1)) 0
  if foldLimit < count then ranges
  else
    sortRanges (ranges.flatMap fun (first, last) =>
      (List.range (last + 1 - first)).flatMap fun i =>
        (variants (Char.ofNat (first + i))).map fun c => (c.toNat, c.toNat))

namespace CharClass

def ranges : CharClass → List (Nat × Nat)
  | none => []
  | range first last => if first ≤ last then [(first, last)] else []
  | table ranges => joinRanges ranges.ranges
  | union a b => sortRanges (a.ranges ++ b.ranges)
  | inter a b => gaps 0 (sortRanges (gaps 0 a.ranges ++ gaps 0 b.ranges))
  | complement a => gaps 0 a.ranges
  | folded a => variantRanges Unicode.caseVariants a.ranges
  | asciiFolded a => variantRanges asciiVariants a.ranges

end CharClass

/-- The numbers of a range as sequences of ranges, one for each digit to the base 64. The first digit
may be any number, and the first argument tells how many others follow. -/
def digitSequences : Nat → Nat → Nat → List (List (Nat × Nat))
  | 0, first, last => [[(first, last)]]
  | n + 1, first, last =>
    let block := Nat.pow 64 (n + 1)
    let a := first / block
    let b := last / block
    if a = b then (digitSequences n (first % block) (last % block)).map ((a, a) :: ·)
    else
      let opening :=
        if first % block = 0 then []
        else (digitSequences n (first % block) (block - 1)).map ((a, a) :: ·)
      let closing :=
        if last % block = block - 1 then []
        else (digitSequences n 0 (last % block)).map ((b, b) :: ·)
      let low := if opening.isEmpty then a else a + 1
      let high := if closing.isEmpty then b + 1 else b
      let middle := if low < high then [(low, high - 1) :: List.replicate (n + 1) (0, 63)] else []
      opening ++ middle ++ closing

/-- Code points with encodings of one length: how many bytes follow the first, and what marks it. -/
structure EncodingForm where
  first : Nat
  last : Nat
  followers : Nat
  mark : Nat

def encodingForms : List EncodingForm :=
  [⟨0, 0x7F, 0, 0⟩, ⟨0x80, 0x7FF, 1, 0xC0⟩, ⟨0x800, 0xD7FF, 2, 0xE0⟩, ⟨0xE000, 0xFFFF, 2, 0xE0⟩,
    ⟨0x10000, 0x10FFFF, 3, 0xF0⟩]

def markFirst (mark : Nat) : List (Nat × Nat) → List (Nat × Nat)
  | [] => []
  | (a, b) :: rest => (a + mark, b + mark) :: rest

/-- The sequences of byte ranges that encode the characters of a range. -/
def byteSequences (range : Nat × Nat) : List (List (Nat × Nat)) :=
  encodingForms.flatMap fun form =>
    let first := max range.1 form.first
    let last := min range.2 form.last
    if first ≤ last then (digitSequences form.followers first last).map (markFirst form.mark)
    else []

def sharedLength : List (Nat × Nat) → List (Nat × Nat) → Nat
  | a :: as, b :: bs => if a = b then 1 + sharedLength as bs else 0
  | _, _ => 0

/-- How many steps sequences take beyond those that each shares with the one before it. -/
def countSteps (before : List (Nat × Nat)) : List (List (Nat × Nat)) → Nat
  | [] => 0
  | sequence :: rest =>
    sequence.length - sharedLength before sequence + countSteps sequence rest

end DocQuery.Regex
