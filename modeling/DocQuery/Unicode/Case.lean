import DocQuery.Unicode.CaseTables

/-! Lower and upper case of texts, and the case variants of a character. A capital sigma at the end
of a word becomes the final form. -/
namespace DocQuery.Unicode

/-- The code point to which a run takes another. -/
def CaseRun.target? (run : CaseRun) (code : Nat) : Option Nat :=
  if run.first ≤ code ∧ code ≤ run.last ∧ (code - run.first) % run.step = 0 then
    some (run.target + (code - run.first))
  else none

/-- The code point that a run takes to another. -/
def CaseRun.source? (run : CaseRun) (code : Nat) : Option Nat :=
  let length := run.last - run.first
  if run.target ≤ code ∧ code ≤ run.target + length ∧ (code - run.target) % run.step = 0 then
    some (run.first + (code - run.target))
  else none

/-- The texts of a case mapping: the expansions first, then the runs, else the character. -/
def mapCase (runs : List CaseRun) (expansions : List (Nat × List Nat)) (c : Char) : List Char :=
  match expansions.lookup c.toNat with
  | some codes => codes.map Char.ofNat
  | none =>
    match runs.findSome? (·.target? c.toNat) with
    | some code => [Char.ofNat code]
    | none => [c]

def lowerChar (c : Char) : List Char :=
  if c.toNat < 128 then [c.toLower] else mapCase lowercaseRuns lowercaseExpansions c

def upperChar (c : Char) : List Char :=
  if c.toNat < 128 then [c.toUpper] else mapCase uppercaseRuns uppercaseExpansions c

/-- Whether a cased character comes next, after characters that case ignores. -/
def casedFollows (cs : List Char) : Bool :=
  match cs.dropWhile caseIgnorableRanges.contains with
  | c :: _ => casedRanges.contains c
  | [] => false

/-- Lower case of a text, given the reversed text before it. -/
def lowerFrom : List Char → List Char → List Char
  | _, [] => []
  | before, c :: rest =>
    let mapped :=
      if c = 'Σ' then [if casedFollows before && !casedFollows rest then 'ς' else 'σ']
      else lowerChar c
    mapped ++ lowerFrom (c :: before) rest

def toLower (s : String) : String := String.ofList (lowerFrom [] s.toList)

def toUpper (s : String) : String := String.ofList (s.toList.flatMap upperChar)

/-- The one of its case variants that stands for a character. -/
def foldCode (code : Nat) : Nat := (foldingRuns.findSome? (·.target? code)).getD code

/-- All characters that differ from a character in case only, itself among them. -/
def caseVariants (c : Char) : List Char :=
  let folded := foldCode c.toNat
  (folded :: foldingRuns.filterMap (·.source? folded)).map Char.ofNat

end DocQuery.Unicode
