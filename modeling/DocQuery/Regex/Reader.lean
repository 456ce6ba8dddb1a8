import DocQuery.Regex.ClassReader
import DocQuery.Text.Digits

/-! Reading an expression, token by token, with a stack of the groups that are open. -/
namespace DocQuery.Regex

/-- A part of an expression, how deep it is nested, and whether it can be repeated. -/
structure Item where
  regex : Regex
  depth : Nat
  repeatable : Bool

def Item.leaf (regex : Regex) : Item := ⟨regex, 0, true⟩

/-- What was read before an open group: the flags there, the finished alternatives and the items
after them, both in reverse order. -/
structure Frame where
  capturing : Bool
  flags : Flags
  branches : List Item
  items : List Item

structure Reader where
  flags : Flags := {}
  names : List String := []
  branches : List Item := []
  items : List Item := []
  outer : List Frame := []

def maximalNesting : Nat := 250

def deepest (items : List Item) : Nat := items.foldl (fun depth item => max depth item.depth) 0

/-- Reversed items as one. -/
def concatItems : List Item → Item
  | [] => .leaf .empty
  | [item] => item
  | items => ⟨concat (items.reverse.map (·.regex)), deepest items + 1, true⟩

/-- Reversed alternatives as one. -/
def chooseItems : List Item → Item
  | [item] => item
  | items => ⟨choice (items.reverse.map (·.regex)), deepest items + 1, true⟩

namespace Reader

def push (r : Reader) (item : Item) : Reader := { r with items := item :: r.items }

/-- All that was read since the group opened. -/
def body (r : Reader) : Item := chooseItems (concatItems r.items :: r.branches)

def alternate (r : Reader) : Reader :=
  { r with branches := concatItems r.items :: r.branches, items := [] }

def openGroup (r : Reader) (capturing : Bool) (flags : Flags) : Reader :=
  { r with
    flags := flags
    branches := []
    items := []
    outer := ⟨capturing, r.flags, r.branches, r.items⟩ :: r.outer }

/-- Flags that were set in a group end with it. -/
def closeGroup (r : Reader) : Except Fault Reader :=
  match r.outer with
  | [] => .error .unopenedGroup
  | frame :: outer =>
    let body := r.body
    let regex := if frame.capturing then .group body.regex else body.regex
    .ok { r with
      flags := frame.flags
      branches := frame.branches
      items := ⟨regex, body.depth + 1, true⟩ :: frame.items
      outer := outer }

/-- Repeats the last item. -/
def repeatLast (r : Reader) (least : Nat) (most : Option Nat) : Except Fault Reader :=
  match r.items with
  | item :: items =>
    if item.repeatable then
      .ok { r with items := ⟨.times item.regex least most, item.depth + 1, true⟩ :: items }
    else .error .missingOperand
  | [] => .error .missingOperand

end Reader

/-- A question mark after a repetition asks for the shortest match, which makes no difference. -/
def skipLazy : List Char → List Char
  | '?' :: cs => cs
  | cs => cs

/-- Digits, past the blanks of verbose mode. -/
def readCountDigits (flags : Flags) : Nat → List Char → List Char × List Char
  | 0, cs => ([], cs)
  | fuel + 1, cs =>
    match cs with
    | c :: rest =>
      if c.isDigit then
        let (digits, rest) := readCountDigits flags fuel (skip flags rest)
        (c :: digits, rest)
      else ([], cs)
    | [] => ([], [])

/-- A number of 32 bits between blanks; none where there are no digits. -/
def readCount (flags : Flags) (cs : List Char) : Except Fault (Option Nat × List Char) :=
  let cs := cs.dropWhile Unicode.isBlank
  let (digits, rest) := readCountDigits flags (cs.length + 1) cs
  let rest := skip flags (rest.dropWhile Unicode.isBlank)
  let count := digitsValue digits
  if digits.isEmpty then .ok (none, rest)
  else if count < 0x100000000 then .ok (some count, rest)
  else .error .badRepetition

/-- Reads the bounds of a repetition whose opening brace has been read. -/
def readBounds (flags : Flags) (cs : List Char) :
    Except Fault ((Nat × Option Nat) × List Char) := do
  let (least, rest) ← readCount flags (skip flags cs)
  let some least := least | throw .badRepetition
  let (most, rest) ←
    match rest with
    | ',' :: rest =>
      match skip flags rest with
      | '\x7d' :: rest => pure (none, '\x7d' :: rest)
      | rest => do
        let (most, rest) ← readCount flags rest
        let some most := most | throw .badRepetition
        pure (some most, rest)
    | rest => pure (some least, rest)
  let '\x7d' :: rest := rest | throw .badRepetition
  if most.any (· < least) then throw .badRepetition
  return ((least, most), skipLazy (skip flags rest))

def setFlag (flags : Flags) (value : Bool) : Char → Option Flags
  | 'i' => some { flags with ignoreCase := value }
  | 'm' => some { flags with multiLine := value }
  | 's' => some { flags with dotAll := value }
  | 'R' => some { flags with anyBreak := value }
  | 'u' => some { flags with unicode := value }
  | 'x' => some { flags with verbose := value }
  | 'U' => some flags
  | _ => none

/-- Reads flags up to a colon or a closing parenthesis, which it returns. Each flag may stand once,
one minus sign may stand before those to be cleared, and none may end the list. -/
def readFlags (flags : Flags) (value : Bool) (seen : List Char) :
    List Char → Except Fault (Flags × Char × List Char)
  | [] => .error .badFlags
  | c :: cs =>
    if c = ':' ∨ c = ')' then
      if seen.head? = some '-' ∨ (seen = [] ∧ c = ')') then .error .badFlags else .ok (flags, c, cs)
    else if seen.contains c then .error .badFlags
    else if c = '-' then readFlags flags false (c :: seen) cs
    else
      match setFlag flags value c with
      | some flags => readFlags flags value (c :: seen) cs
      | none => .error .badFlags

def isNameChar (c : Char) : Bool :=
  Unicode.isAlphanumeric c || c = '_' || c = '.' || c = '[' || c = ']'

/-- Reads the name of a group, up to the closing angle bracket. -/
def readGroupName (names : List String) (cs : List Char) : Except Fault (String × List Char) := do
  let (name, rest) := cs.span (· ≠ '>')
  let '>' :: rest := rest | throw .badGroupName
  let first :: _ := name | throw .badGroupName
  if (Unicode.isAlphabetic first || first == '_') && name.all isNameChar then
    let name := String.ofList name
    if names.contains name then throw (.duplicateGroupName name)
    return (name, rest)
  else throw .badGroupName

def readNamedGroup (r : Reader) (cs : List Char) : Except Fault (Reader × List Char) := do
  let (name, rest) ← readGroupName r.names cs
  return ({ r with names := name :: r.names }.openGroup true r.flags, rest)

/-- Reads what follows an opening parenthesis: a look-around, a name, flags, or nothing. -/
def readGroup (r : Reader) (cs : List Char) : Except Fault (Reader × List Char) :=
  match skip r.flags cs with
  | '?' :: '=' :: _ | '?' :: '!' :: _ | '?' :: '<' :: '=' :: _ | '?' :: '<' :: '!' :: _ =>
    .error .lookAround
  | '?' :: 'P' :: '<' :: rest => readNamedGroup r rest
  | '?' :: '<' :: rest => readNamedGroup r rest
  | '?' :: rest => do
    let (flags, last, rest) ← readFlags r.flags true [] rest
    if last = ':' then return (r.openGroup false flags, rest)
    else return ({ r with flags := flags }.push ⟨.empty, 0, false⟩, rest)
  | rest => .ok (r.openGroup true r.flags, rest)

def lineStart (flags : Flags) : Assertion :=
  if !flags.multiLine then .textStart
  else if flags.anyBreak then .lineStartAnyBreak else .lineStart

def lineEnd (flags : Flags) : Assertion :=
  if !flags.multiLine then .textEnd
  else if flags.anyBreak then .lineEndAnyBreak else .lineEnd

def dotClass (flags : Flags) : Except Fault CharClass :=
  if !flags.unicode then .error .unicodeDisabled
  else if flags.dotAll then .ok .any
  else if flags.anyBreak then .ok (.complement (.union (.single '\n') (.single '\r')))
  else .ok (.complement (.single '\n'))

def atomRegex (flags : Flags) : Atom → Except Fault Regex
  | .char c byte => do return .one (foldWith flags (.single (← checkByte flags c byte)))
  | .chars set => .ok (.one set)
  | .assertion a => .ok (.assert a)

/-- Reads one token, given its first character and the text after it. -/
def readToken (r : Reader) (c : Char) (cs : List Char) : Except Fault (Reader × List Char) :=
  match c with
  | '(' => readGroup r cs
  | ')' => do return (← r.closeGroup, cs)
  | '|' => .ok (r.alternate, cs)
  | '?' => do return (← r.repeatLast 0 (some 1), skipLazy cs)
  | '*' => do return (← r.repeatLast 0 none, skipLazy cs)
  | '+' => do return (← r.repeatLast 1 none, skipLazy cs)
  | '\x7b' => do
    let ((least, most), rest) ← readBounds r.flags cs
    return (← r.repeatLast least most, rest)
  | '[' => do
    let (part, rest) ← readClass r.flags cs
    return (r.push ⟨.one part.set, part.depth, true⟩, rest)
  | '.' => do return (r.push (.leaf (.one (← dotClass r.flags))), cs)
  | '^' => .ok (r.push (.leaf (.assert (lineStart r.flags))), cs)
  | '$' => .ok (r.push (.leaf (.assert (lineEnd r.flags))), cs)
  | '\\' => do
    let (atom, rest) ← readEscape r.flags cs
    return (r.push (.leaf (← atomRegex r.flags atom)), rest)
  | c => do return (r.push (.leaf (← atomRegex r.flags (.char c false))), cs)

/-- Reads tokens to the end. Each takes a character at least, so the length bounds their number. -/
def readTokens : Nat → Reader → List Char → Except Fault Reader
  | 0, r, _ => .ok r
  | fuel + 1, r, cs =>
    match skip r.flags cs with
    | [] => .ok r
    | c :: cs => do
      let (r, rest) ← readToken r c cs
      readTokens fuel r rest

/-- The expression that a text writes. -/
def parse (cs : List Char) : Except Fault Regex := do
  let r ← readTokens (cs.length + 1) {} cs
  if !r.outer.isEmpty then throw .unclosedGroup
  if maximalNesting < r.body.depth then throw .nestedTooDeep
  return r.body.regex

end DocQuery.Regex
