import DocQuery.Regex.Basic

/-! Matching by sets of positions. A set of positions in a text is a number, position `i` being the
bit `i`; an expression takes the positions where a match may begin to those where it may end. -/
namespace DocQuery.Regex

/-- The positions before the characters that satisfy a test. -/
def positionsOf (test : α → Bool) (items : List α) : Nat :=
  items.foldr (fun item set => 2 * set + (test item).toNat) 0

def charPositions (chars : CharClass) (text : List Char) : Nat := positionsOf chars.contains text

/-- The neighbours of each position of a text, its end included. -/
def neighbours (text : List Char) : List (Option Char × Option Char) :=
  (none :: text.map some).zip (text.map some ++ [none])

def assertionPositions (a : Assertion) (text : List Char) : Nat :=
  positionsOf (fun (before, after) => a.holds before after) (neighbours text)

/-- Takes a step as often as given, which is decided early where a step changes nothing. -/
def exactly (step : Nat → Nat) : Nat → Nat → Nat
  | 0, set => set
  | n + 1, set =>
    let next := step set
    if next = set then set else exactly step n next

/-- Takes a step up to as often as given and keeps all positions on the way. -/
def upTo (step : Nat → Nat) : Nat → Nat → Nat
  | 0, set => set
  | n + 1, set =>
    let next := set ||| step set
    if next = set then set else upTo step n next

/-- The ends of the matches that begin in a set of positions. Repetition without a bound is done
after as many steps as the text has positions, because only steps forward add any. -/
def advance (text : List Char) : Regex → Nat → Nat
  | empty, set => set
  | one chars, set => (set &&& charPositions chars text) <<< 1
  | assert a, set => set &&& assertionPositions a text
  | cat a b, set => advance text b (advance text a set)
  | alt a b, set => advance text a set ||| advance text b set
  | times a least most, set =>
    let step := fun s => advance text a s
    upTo step ((most.map (· - least)).getD (text.length + 1)) (exactly step least set)
  | group a, set => advance text a set

/-- Whether there is a match anywhere in a text. -/
def matchesIn (a : Regex) (text : List Char) : Bool :=
  advance text a (1 <<< (text.length + 1) - 1) ≠ 0

end DocQuery.Regex
