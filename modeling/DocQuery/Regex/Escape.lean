import DocQuery.Regex.Basic
import DocQuery.Regex.Fault

/-! Escape sequences, the same in and out of classes. -/
namespace DocQuery.Regex

structure Flags where
  ignoreCase : Bool := false
  multiLine : Bool := false
  dotAll : Bool := false
  anyBreak : Bool := false
  unicode : Bool := true
  verbose : Bool := false
  deriving DecidableEq

/-- Skips blanks and comments in verbose mode; inside a comment, up to the end of the line. -/
def skipVerbose : Bool → List Char → List Char
  | _, [] => []
  | true, c :: cs => if c = '\n' then skipVerbose false cs else skipVerbose true cs
  | false, c :: cs =>
    if Unicode.isBlank c then skipVerbose false cs
    else if c = '#' then skipVerbose true cs
    else c :: cs

/-- The text up to the next character that counts. -/
def skip (flags : Flags) (cs : List Char) : List Char :=
  if flags.verbose then skipVerbose false cs else cs

/-- What an escape sequence, or a character by itself, stands for. -/
inductive Atom where
  /-- A character; `byte` says that it was written as two hexadecimal digits. -/
  | char (c : Char) (byte : Bool)
  | chars (set : CharClass)
  | assertion (a : Assertion)

def foldWith (flags : Flags) (a : CharClass) : CharClass :=
  if !flags.ignoreCase then a else if flags.unicode then .folded a else .asciiFolded a

/-- Without Unicode support a class may hold ASCII characters only. -/
def checkAscii (flags : Flags) (a : CharClass) : Except Fault CharClass :=
  if flags.unicode || a.isAscii then .ok a else .error .unicodeDisabled

def checkByte (flags : Flags) (c : Char) (byte : Bool) : Except Fault Char :=
  if flags.unicode || !byte || c.toNat < 128 then .ok c else .error .unicodeDisabled

def perlClass (flags : Flags) (c : Char) : Except Fault CharClass :=
  let kind := c.toLower
  let set :=
    if kind = 'd' then if flags.unicode then .table Unicode.digitRanges else .asciiDigit
    else if kind = 's' then if flags.unicode then .table Unicode.whiteSpace else .asciiBlank
    else if flags.unicode then .table Unicode.wordRanges else .asciiWord
  checkAscii flags (if c.isUpper then .complement set else set)

/-- Splits a name at a mark of one or two characters. -/
def splitAtMark (mark : List Char) : List Char → Option (List Char × List Char)
  | [] => none
  | c :: cs =>
    if mark.isPrefixOf (c :: cs) then some ([], (c :: cs).drop mark.length)
    else (splitAtMark mark cs).map fun (before, after) => (c :: before, after)

/-- The set that a property names, and whether the name asks for the complement. -/
def namedSet? (name : List Char) : Option Unicode.NamedSet × Bool :=
  let find := fun (parts : List Char × List Char) =>
    Unicode.byValue? (String.ofList parts.1) (String.ofList parts.2)
  match splitAtMark ['!', '='] name with
  | some parts => (find parts, true)
  | none =>
    match (splitAtMark [':'] name).or (splitAtMark ['='] name) with
    | some parts => (find parts, false)
    | none => (Unicode.byName? (String.ofList name), false)

def propertyClass (flags : Flags) (negated : Bool) (name : List Char) : Except Fault CharClass :=
  if !flags.unicode then .error .unicodeDisabled
  else
    match namedSet? name with
    | (none, _) => .error (.unknownProperty (String.ofList name))
    | (some set, complement) =>
      let folded := foldWith flags (.ofNamed set)
      .ok (if negated != complement then .complement folded else folded)

/-- Reads up to a closing brace, past the blanks of verbose mode. -/
def readBraced (flags : Flags) : Nat → List Char → Option (List Char × List Char)
  | 0, _ => none
  | fuel + 1, cs =>
    match skip flags cs with
    | [] => none
    | c :: cs =>
      if c = '\x7d' then some ([], cs)
      else (readBraced flags fuel cs).map fun (inside, rest) => (c :: inside, rest)

def hexDigit? (c : Char) : Option Nat :=
  if '0' ≤ c ∧ c ≤ '9' then some (c.toNat - 48)
  else if 'a' ≤ c ∧ c ≤ 'f' then some (c.toNat - 87)
  else if 'A' ≤ c ∧ c ≤ 'F' then some (c.toNat - 55)
  else none

/-- The character with a code in hexadecimal digits. -/
def hexChar (digits : List Char) : Except Fault Char := do
  let some values := digits.mapM hexDigit? | throw .badEscape
  let code := values.foldl (fun n d => n * 16 + d) 0
  if digits ≠ [] ∧ code.isValidChar then return Char.ofNat code else throw .badEscape

def readHexDigits (flags : Flags) : Nat → List Char → Except Fault (List Char × List Char)
  | 0, cs => .ok ([], cs)
  | n + 1, cs =>
    match skip flags cs with
    | [] => .error .badEscape
    | c :: cs => do
      let (digits, rest) ← readHexDigits flags n cs
      return (c :: digits, rest)

/-- Reads a code in braces, or one of a fixed number of digits. -/
def readHex (flags : Flags) (width : Nat) (cs : List Char) : Except Fault (Atom × List Char) :=
  match skip flags cs with
  | '\x7b' :: cs =>
    match readBraced flags (cs.length + 1) cs with
    | none => .error .badEscape
    | some (digits, rest) => do return (.char (← hexChar digits) false, skip flags rest)
  | cs => do
    let (digits, rest) ← readHexDigits flags width cs
    return (.char (← hexChar digits) (width == 2), skip flags rest)

def readProperty (flags : Flags) (negated : Bool) (cs : List Char) :
    Except Fault (Atom × List Char) :=
  match skip flags cs with
  | [] => .error .badEscape
  | '\x7b' :: cs =>
    match readBraced flags (cs.length + 1) cs with
    | none => .error .badEscape
    | some (name, rest) => do return (.chars (← propertyClass flags negated name), rest)
  | '\\' :: _ => .error .badEscape
  | c :: cs => do return (.chars (← propertyClass flags negated [c]), skip flags cs)

def isEdgeNameChar (c : Char) : Bool := c.isAlpha || c = '-'

/-- Reads the letters of an edge's name, past the blanks of verbose mode. -/
def readEdgeName (flags : Flags) : Nat → List Char → List Char × List Char
  | 0, cs => ([], cs)
  | fuel + 1, cs =>
    match cs with
    | c :: rest =>
      if isEdgeNameChar c then
        let (name, rest) := readEdgeName flags fuel (skip flags rest)
        (c :: name, rest)
      else ([], cs)
    | [] => ([], [])

/-- After a boundary, a name in braces makes it one side of a boundary. Braces around anything else
are left for a repetition. -/
def readEdge (flags : Flags) (cs : List Char) : Except Fault (Atom × List Char) :=
  let edge := fun (e : WordEdge) => Atom.assertion (.word e !flags.unicode)
  match cs with
  | '\x7b' :: rest =>
    match skip flags rest with
    | [] => .error .badRepetition
    | c :: inside =>
      if !isEdgeNameChar c then .ok (edge .boundary, cs)
      else
        match readEdgeName flags (inside.length + 1) (c :: inside) with
        | (name, '\x7d' :: rest) =>
          match String.ofList name with
          | "start" => .ok (edge .start, rest)
          | "end" => .ok (edge .finish, rest)
          | "start-half" => .ok (edge .startHalf, rest)
          | "end-half" => .ok (edge .finishHalf, rest)
          | _ => .error .badEscape
        | _ => .error .badEscape
  | _ => .ok (edge .boundary, cs)

/-- Punctuation may be escaped, angle brackets apart, and no letter or digit. -/
def isEscapable (c : Char) : Bool :=
  c.toNat < 128 && !c.isAlphanum && c ≠ '<' && c ≠ '>'

/-- Reads an escape sequence whose backslash has been read. -/
def readEscape (flags : Flags) : List Char → Except Fault (Atom × List Char)
  | [] => .error .badEscape
  | c :: cs =>
    let edge := fun (e : WordEdge) => Atom.assertion (.word e !flags.unicode)
    if c.isDigit then .error .backReference
    else if c = 'x' then readHex flags 2 cs
    else if c = 'u' then readHex flags 4 cs
    else if c = 'U' then readHex flags 8 cs
    else if c = 'p' then readProperty flags false cs
    else if c = 'P' then readProperty flags true cs
    else if ['d', 's', 'w', 'D', 'S', 'W'].contains c then do
      return (.chars (← perlClass flags c), cs)
    else if isEscapable c then .ok (.char c false, cs)
    else
      match c with
      | 'a' => .ok (.char '\x07' false, cs)
      | 'f' => .ok (.char '\x0c' false, cs)
      | 't' => .ok (.char '\t' false, cs)
      | 'n' => .ok (.char '\n' false, cs)
      | 'r' => .ok (.char '\r' false, cs)
      | 'v' => .ok (.char '\x0b' false, cs)
      | 'A' => .ok (.assertion .textStart, cs)
      | 'z' => .ok (.assertion .textEnd, cs)
      | 'b' => readEdge flags cs
      | 'B' => .ok (edge .inside, cs)
      | '<' => .ok (edge .start, cs)
      | '>' => .ok (edge .finish, cs)
      | _ => .error .badEscape

end DocQuery.Regex
