import DocQuery.Regex.Escape

/-! Reading a class in brackets, by a stack of the brackets that are open. -/
namespace DocQuery.Regex

inductive SetOperator where
  | inter
  | difference
  | symmetricDifference

/-- A class and how deep it is nested. -/
structure ClassPart where
  set : CharClass
  depth : Nat

/-- A bracket that is open: the operation that waits for its right side, and the members so far in
reverse order. -/
structure ClassFrame where
  negated : Bool
  pending : Option (SetOperator × ClassPart)
  members : List ClassPart

def unite : List ClassPart → ClassPart
  | [] => ⟨.none, 0⟩
  | [part] => part
  | part :: parts =>
    ⟨parts.foldl (fun set p => .union p.set set) part.set,
      (part :: parts).foldl (fun depth p => max depth p.depth) 0 + 1⟩

def SetOperator.apply (flags : Flags) (op : SetOperator) (a b : ClassPart) : ClassPart :=
  let left := foldWith flags a.set
  let right := foldWith flags b.set
  let set :=
    match op with
    | inter => .inter left right
    | difference => left.difference right
    | symmetricDifference => left.symmetricDifference right
  ⟨set, max a.depth b.depth + 1⟩

/-- The members as one part, joined to the left side that waits for it. -/
def ClassFrame.joined (flags : Flags) (frame : ClassFrame) : ClassPart :=
  let right := unite frame.members
  match frame.pending with
  | some (op, left) => op.apply flags left right
  | none => right

def ClassFrame.operate (flags : Flags) (frame : ClassFrame) (op : SetOperator) : ClassFrame :=
  { frame with pending := some (op, frame.joined flags), members := [] }

def ClassFrame.push (frame : ClassFrame) (set : CharClass) : ClassFrame :=
  { frame with members := ⟨set, 0⟩ :: frame.members }

/-- Case is folded before the complement is taken. -/
def finishSet (flags : Flags) (negated : Bool) (set : CharClass) : Except Fault CharClass :=
  let folded := foldWith flags set
  checkAscii flags (if negated then .complement folded else folded)

def ClassFrame.close (flags : Flags) (frame : ClassFrame) : Except Fault ClassPart := do
  let inside := frame.joined flags
  return ⟨← finishSet flags frame.negated inside.set, inside.depth + 1⟩

/-- Hyphens that open a class stand for themselves. -/
def readHyphens (flags : Flags) : Nat → List Char → Nat × List Char
  | 0, cs => (0, cs)
  | fuel + 1, cs =>
    match cs with
    | '-' :: rest =>
      let (n, rest) := readHyphens flags fuel (skip flags rest)
      (n + 1, rest)
    | cs => (0, cs)

/-- Reads what follows an opening bracket: the complement mark, hyphens, and a closing bracket that
stands for itself because nothing is in the class yet. -/
def openClass (flags : Flags) (cs : List Char) : Except Fault (ClassFrame × List Char) :=
  let (negated, cs) :=
    match skip flags cs with
    | '^' :: cs => (true, skip flags cs)
    | cs => (false, cs)
  let (hyphens, cs) := readHyphens flags (cs.length + 1) cs
  let frame : ClassFrame := ⟨negated, none, List.replicate hyphens ⟨.single '-', 0⟩⟩
  match cs with
  | [] => .error .unclosedClass
  | ']' :: rest =>
    if hyphens = 0 then
      match skip flags rest with
      | [] => .error .unclosedClass
      | rest => .ok (frame.push (.single ']'), rest)
    else .ok (frame, cs)
  | cs => .ok (frame, cs)

/-- Reads a named class such as `[:alpha:]`, given the text after its first bracket: whether it is
negated, its members, and the rest. -/
def readPosix? (cs : List Char) : Option (Bool × CharClass × List Char) := do
  let ':' :: cs := cs | none
  let (negated, cs) :=
    match cs with
    | '^' :: cs => (true, cs)
    | cs => (false, cs)
  let (name, rest) := cs.span (· ≠ ':')
  let ':' :: ']' :: rest := rest | none
  let set ← CharClass.posix? (String.ofList name)
  return (negated, set, rest)

def readMember (flags : Flags) : List Char → Except Fault (Atom × List Char)
  | [] => .error .unclosedClass
  | '\\' :: cs => readEscape flags cs
  | c :: cs => .ok (.char c false, cs)

/-- Without Unicode support a class has no characters above ASCII. -/
def classChar (flags : Flags) : Atom → Except Fault Char
  | .char c _ => if flags.unicode || c.toNat < 128 then .ok c else .error .unicodeDisabled
  | _ => .error .badClass

def memberSet (flags : Flags) : Atom → Except Fault CharClass
  | .chars set => .ok set
  | .assertion _ => .error .badClass
  | atom => do return .single (← classChar flags atom)

/-- The text after the blanks in front, where a hyphen looks for its neighbour. The mark of a comment
is passed over once, but the comment is not. -/
def lookPast (flags : Flags) (cs : List Char) : List Char :=
  if flags.verbose then
    match cs.dropWhile Unicode.isBlank with
    | '#' :: cs => cs.dropWhile Unicode.isBlank
    | cs => cs
  else cs

/-- Whether the hyphen at the front of a text makes a range. -/
def makesRange (flags : Flags) : List Char → Bool
  | '-' :: rest =>
    match lookPast flags rest with
    | ']' :: _ | '-' :: _ => false
    | _ => true
  | _ => false

/-- Reads a character, a set or a range. -/
def readRange (flags : Flags) (cs : List Char) : Except Fault (CharClass × List Char) := do
  let (first, rest) ← readMember flags cs
  let rest := skip flags rest
  if rest.isEmpty then throw .unclosedClass
  if makesRange flags rest then
    let after := skip flags (rest.drop 1)
    if after.isEmpty then throw .unclosedClass
    let (last, rest) ← readMember flags after
    let first ← classChar flags first
    let last ← classChar flags last
    if last.toNat < first.toNat then throw .badClass
    return (.range first.toNat last.toNat, rest)
  else return (← memberSet flags first, rest)

/-- Reads to the end of the outermost bracket. Each step takes a character at least. -/
def readClassBody (flags : Flags) :
    Nat → List ClassFrame → ClassFrame → List Char → Except Fault (ClassPart × List Char)
  | 0, _, _, _ => .error .unclosedClass
  | fuel + 1, outer, frame, cs =>
    match skip flags cs with
    | [] => .error .unclosedClass
    | '[' :: rest =>
      match readPosix? rest with
      | some (negated, set, rest) => do
        readClassBody flags fuel outer (frame.push (← finishSet flags negated set)) rest
      | none => do
        let (inner, rest) ← openClass flags rest
        readClassBody flags fuel (frame :: outer) inner rest
    | ']' :: rest => do
      let part ← frame.close flags
      match outer with
      | [] => return (part, rest)
      | parent :: outer =>
        readClassBody flags fuel outer { parent with members := part :: parent.members } rest
    | '&' :: '&' :: rest => readClassBody flags fuel outer (frame.operate flags .inter) rest
    | '-' :: '-' :: rest => readClassBody flags fuel outer (frame.operate flags .difference) rest
    | '~' :: '~' :: rest =>
      readClassBody flags fuel outer (frame.operate flags .symmetricDifference) rest
    | cs => do
      let (set, rest) ← readRange flags cs
      readClassBody flags fuel outer (frame.push set) rest

/-- Reads a class whose opening bracket has been read. -/
def readClass (flags : Flags) (cs : List Char) : Except Fault (ClassPart × List Char) := do
  let (frame, rest) ← openClass flags cs
  readClassBody flags (rest.length + 1) [] frame rest

end DocQuery.Regex
