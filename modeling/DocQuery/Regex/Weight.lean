import DocQuery.Regex.Basic
import DocQuery.Regex.EncodedRanges

/-! An estimate of the bytes that a compiled expression takes, with counted repetitions written out. -/
namespace DocQuery.Regex

def stateWeight : Nat := 32

namespace CharClass

/-- ASCII characters share a state, others take a state for each byte that tells them apart. A single
character needs no more than its bytes. -/
def weight (a : CharClass) : Nat :=
  match a.ranges with
  | [(first, last)] =>
    if first = last then stateWeight * countSteps [] (byteSequences (first, last))
    else rangesWeight [(first, last)]
  | ranges => rangesWeight ranges
where
  rangesWeight (ranges : List (Nat × Nat)) : Nat :=
    if ranges.all (·.2 < 128) then 2 * stateWeight + 8 * ranges.length
    else
      let sequences := ranges.flatMap byteSequences
      2 * stateWeight + 4 * sequences.length + stateWeight * countSteps [] sequences

end CharClass

/-- Whether nothing but the empty text can match. -/
def isEmptyOnly : Regex → Bool
  | empty | assert _ => true
  | one _ => false
  | cat a b | alt a b => a.isEmptyOnly && b.isEmptyOnly
  | times a _ most => most == some 0 || a.isEmptyOnly
  | group a => a.isEmptyOnly

/-- It makes no difference how often the empty text is repeated. -/
def weight : Regex → Nat
  | empty => stateWeight
  | one chars => chars.weight
  | assert _ => stateWeight
  | cat a b => a.weight + b.weight
  | alt a b => stateWeight + a.weight + b.weight
  | times a least none =>
    2 * stateWeight + if a.isEmptyOnly then a.weight else a.weight * max 1 least
  | times a least (some most) =>
    if a.isEmptyOnly then 2 * stateWeight + a.weight
    else stateWeight + a.weight * least + (a.weight + 2 * stateWeight) * (most - least)
  | group a => 2 * stateWeight + a.weight

/-- What any compiled expression takes. -/
def frameWeight : Nat := 6 * stateWeight

/-- The most texts that are searched for one by one. -/
def textLimit : Nat := 250

def charLimit : Nat := 10

/-- The characters of a class that names a few of them. -/
def CharClass.few? : CharClass → Option (List Char)
  | range first last =>
    if last < first + charLimit then
      some ((List.range (last + 1 - first)).map fun i => Char.ofNat (first + i))
    else Option.none
  | union a b => do
    let chars := ((← a.few?) ++ (← b.few?)).eraseDups
    if chars.length ≤ charLimit then return chars else Option.none
  | folded a => do return (← a.few?).flatMap Unicode.caseVariants
  | asciiFolded a => do return (← a.few?).flatMap asciiVariants
  | none => some []
  | _ => Option.none

def joinTexts (as bs : List (List Char)) : Option (List (List Char)) :=
  if as.length * bs.length ≤ textLimit then some (as.flatMap fun a => bs.map (a ++ ·)) else none

/-- The texts that an expression matches, where they are few and only their ends matter. -/
def texts? : Regex → Option (List (List Char))
  | empty => some [[]]
  | one chars => do return (← chars.few?).map ([·])
  | cat a b => do joinTexts (← a.texts?) (← b.texts?)
  | alt a b => do return (← a.texts?) ++ (← b.texts?)
  | times a least most => do
    let texts ← a.texts?
    if most = some least ∧ least ≤ charLimit then
      (List.replicate least texts).foldlM joinTexts [[]]
    else if least = 0 ∧ most = some 1 then return [] :: texts
    else none
  | assert _ | group _ => none

/-- A few texts are searched for without a compiled expression, unless one is empty. -/
def isTextSearch (a : Regex) : Bool :=
  match a.texts? with
  | some texts => !texts.isEmpty && texts.all fun t => !t.isEmpty && t.length ≤ 100
  | none => false

def fits (limit : Nat) (a : Regex) : Bool := a.isTextSearch || frameWeight + a.weight ≤ limit

end DocQuery.Regex
