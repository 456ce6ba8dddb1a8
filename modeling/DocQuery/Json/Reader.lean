import DocQuery.Json.Basic

/-! Reading JSON. Each reader returns what it read and the rest of the text, or none where the text
is not JSON. -/
namespace DocQuery.JsonReader

def isBlank (c : Char) : Bool := c = ' ' || c = '\n' || c = '\t' || c = '\r'

def skipBlanks (cs : List Char) : List Char := cs.dropWhile isBlank

def hexDigit? (c : Char) : Option Nat :=
  if '0' ≤ c ∧ c ≤ '9' then some (c.toNat - 48)
  else if 'a' ≤ c ∧ c ≤ 'f' then some (c.toNat - 87)
  else if 'A' ≤ c ∧ c ≤ 'F' then some (c.toNat - 55)
  else none

def readUnit : List Char → Option (Nat × List Char)
  | a :: b :: c :: d :: rest => do
    let code := (((← hexDigit? a) * 16 + (← hexDigit? b)) * 16 + (← hexDigit? c)) * 16
    return (code + (← hexDigit? d), rest)
  | _ => none

def simpleEscape? : Char → Option Char
  | '"' => some '"'
  | '\\' => some '\\'
  | '/' => some '/'
  | 'b' => some '\x08'
  | 'f' => some '\x0c'
  | 'n' => some '\n'
  | 'r' => some '\r'
  | 't' => some '\t'
  | _ => none

/-- A character of a string, or a half of a surrogate pair. -/
inductive Unit16 where
  | char (c : Char)
  | high (code : Nat)
  | low (code : Nat)

def unitOfCode (code : Nat) : Unit16 :=
  if 0xD800 ≤ code ∧ code < 0xDC00 then .high code
  else if 0xDC00 ≤ code ∧ code < 0xE000 then .low code
  else .char (Char.ofNat code)

/-- Joins the halves of surrogate pairs; none where one is alone. -/
def joinUnits : List Unit16 → Option (List Char)
  | [] => some []
  | .char c :: rest => (joinUnits rest).map (c :: ·)
  | .high a :: .low b :: rest =>
    (joinUnits rest).map
      (Char.ofNat (0x10000 + (a - 0xD800) * 0x400 + (b - 0xDC00)) :: ·)
  | _ => none

/-- Reads up to the closing quote. Controls must be escaped. -/
def readUnits : Nat → List Char → Option (List Unit16 × List Char)
  | 0, _ => none
  | _ + 1, [] => none
  | fuel + 1, c :: cs =>
    if c = '"' then some ([], cs)
    else if c = '\\' then
      match cs with
      | 'u' :: cs => do
        let (code, cs) ← readUnit cs
        let (units, rest) ← readUnits fuel cs
        return (unitOfCode code :: units, rest)
      | e :: cs => do
        let plain ← simpleEscape? e
        let (units, rest) ← readUnits fuel cs
        return (.char plain :: units, rest)
      | [] => none
    else if c.toNat < 32 then none
    else do
      let (units, rest) ← readUnits fuel cs
      return (.char c :: units, rest)

/-- Reads a string whose opening quote has been read. -/
def readText (cs : List Char) : Option (JsonText × List Char) := do
  let (units, rest) ← readUnits (cs.length + 1) cs
  return ((joinUnits units).map String.ofList, rest)

/-- One zero, or digits that begin with another digit. -/
def readWhole (cs : List Char) : Option (List Char × List Char) :=
  match spanDigits cs with
  | ([], _) => none
  | (['0'], rest) => some (['0'], rest)
  | ('0' :: _, _) => none
  | result => some result

def readFraction : List Char → Option (List Char × List Char)
  | '.' :: cs =>
    match spanDigits cs with
    | ([], _) => none
    | result => some result
  | cs => some ([], cs)

def readExponent : List Char → Option (Option Int × List Char)
  | mark :: cs =>
    if mark = 'e' ∨ mark = 'E' then
      let (negative, cs) :=
        match cs with
        | '+' :: cs => (false, cs)
        | '-' :: cs => (true, cs)
        | cs => (false, cs)
      match spanDigits cs with
      | ([], _) => none
      | (digits, rest) =>
        let power : Int := digitsValue digits
        some (some (if negative then -power else power), rest)
    else some (none, mark :: cs)
  | [] => some (none, [])

def readNumber (negative : Bool) (cs : List Char) : Option (Json × List Char) := do
  let (whole, cs) ← readWhole cs
  let (fraction, cs) ← readFraction cs
  let (exponent, cs) ← readExponent cs
  return (.number ⟨negative, whole, fraction, exponent⟩, cs)

mutual

/-- Reads a value after blanks. The first argument bounds how many values are read. -/
def readValue : Nat → List Char → Option (Json × List Char)
  | 0, _ => none
  | fuel + 1, cs =>
    match skipBlanks cs with
    | 'n' :: 'u' :: 'l' :: 'l' :: rest => some (.null, rest)
    | 't' :: 'r' :: 'u' :: 'e' :: rest => some (.boolean true, rest)
    | 'f' :: 'a' :: 'l' :: 's' :: 'e' :: rest => some (.boolean false, rest)
    | '"' :: rest => do
      let (s, rest) ← readText rest
      return (.string s, rest)
    | '[' :: rest =>
      match skipBlanks rest with
      | ']' :: rest => some (.array [], rest)
      | rest => do
        let (items, rest) ← readItems fuel rest
        return (.array items, rest)
    | '\x7b' :: rest =>
      match skipBlanks rest with
      | '\x7d' :: rest => some (.object [], rest)
      | rest => do
        let (members, rest) ← readMembers fuel rest
        return (.object members, rest)
    | '-' :: rest => readNumber true rest
    | rest => readNumber false rest

/-- Reads the items of an array that is not empty, up to its end. -/
def readItems : Nat → List Char → Option (List Json × List Char)
  | 0, _ => none
  | fuel + 1, cs => do
    let (item, rest) ← readValue fuel cs
    match skipBlanks rest with
    | ',' :: rest =>
      let (items, rest) ← readItems fuel rest
      return (item :: items, rest)
    | ']' :: rest => return ([item], rest)
    | _ => none

/-- Reads the members of an object that is not empty, up to its end. -/
def readMembers : Nat → List Char → Option (List (JsonText × Json) × List Char)
  | 0, _ => none
  | fuel + 1, cs =>
    match skipBlanks cs with
    | '"' :: rest => do
      let (key, rest) ← readText rest
      match skipBlanks rest with
      | ':' :: rest =>
        let (value, rest) ← readValue fuel rest
        match skipBlanks rest with
        | ',' :: rest =>
          let (members, rest) ← readMembers fuel rest
          return ((key, value) :: members, rest)
        | '\x7d' :: rest => return ([(key, value)], rest)
        | _ => none
      | _ => none
    | _ => none

end
end JsonReader

/-- Reads a text that holds one JSON value and blanks around it. Every value takes a character, so
the length of the text bounds their number. -/
def Json.parse? (text : String) : Option Json :=
  match JsonReader.readValue (2 * text.length + 2) text.toList with
  | some (json, rest) => if (JsonReader.skipBlanks rest).isEmpty then some json else none
  | none => none

end DocQuery
