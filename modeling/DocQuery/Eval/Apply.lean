import DocQuery.Eval.Collection
import DocQuery.Eval.Comparison
import DocQuery.Eval.Logic
import DocQuery.Eval.Time
import DocQuery.Eval.Vector

/-! Applying a function to the outcomes of its operands. A wrong number of operands comes before any
other fault. -/
namespace DocQuery

namespace Connective

def apply (c : Connective) (args : List Outcome) : Outcome :=
  let f := Builtin.connective c
  match c, args with
  | and, args => dominated f false none args
  | or, args => dominated f true none args
  | xor, args => parity f false args
  | not, [o] => negate f o
  | not, args => .error (.arity f args.length)

end Connective

namespace Selection

def apply (s : Selection) (args : List Outcome) : Outcome :=
  match s, args with
  | isError, [o] => .boolean o.isError
  | ifError, [tried, fallback] => DocQuery.ifError tried fallback
  | cond, [test, yes, no] => conditional test yes no
  | maximum, args => .value (firstExtreme .gt args)
  | minimum, args => .value (firstExtreme .lt args)
  | s, args => .error (.arity (.selection s) args.length)

end Selection

namespace Arithmetic

def apply (op : Arithmetic) (args : List Outcome) : Outcome :=
  let result :=
    match op, args with
    | add, args => fold add args
    | multiply, args => fold multiply args
    | op, [a, b] => op.binary a b
    | op, args => .error (.arity (.arithmetic op) args.length)
  .ofExcept (result.map Number.toValue)

end Arithmetic

namespace TextFunction

def apply (t : TextFunction) (args : List Outcome) : Outcome :=
  let f := Builtin.text t
  .ofExcept <|
    match t, args with
    | charLength, [o] => countChars f o
    | byteLength, [o] => countBytes f o
    | toLower, [o] => transform f Unicode.toLower o
    | toUpper, [o] => transform f Unicode.toUpper o
    | trim, [o] => transform f Unicode.trimBlanks o
    | reverse, [o] => transform f reversed o
    | concat, args => (join f args).map .string
    | substr, [text, position] => cut f text position none
    | substr, [text, position, length] => cut f text position (some length)
    | replaceFirst, [text, find, new] => replace f (some 1) text find new
    | replaceAll, [text, find, new] => replace f none text find new
    | contains, [text, needle] => search f containsText text needle
    | startsWith, [text, needle] => search f List.isPrefixOf text needle
    | endsWith, [text, needle] => search f List.isSuffixOf text needle
    | _, args => .error (.arity f args.length)

end TextFunction

namespace CollectionFunction

def apply (c : CollectionFunction) (args : List Outcome) : Outcome :=
  let f := Builtin.collection c
  match c, args with
  | arrayLength, [o] => .ofExcept ((o.array f).map fun items => lengthValue items.length)
  | arrayReverse, [o] => .ofExcept ((o.array f).map fun items => .array items.reverse)
  | arrayConcat, args => .ofExcept ((join f args).map .array)
  | arrayGet, [array, index] => .ofExcept (getItem f array index)
  | map, args => .ofExcept ((pairs f args).map fun entries => .map (Entries.ofPairs entries))
  | mapGet, [m, key] => getEntry f m key
  | mapMerge, args => .ofExcept ((merge f [] args).map .map)
  | mapRemove, [m, key] => .ofExcept (removeEntry f m key)
  | _, args => .error (.arity f args.length)

end CollectionFunction

namespace VectorFunction

def apply (v : VectorFunction) (args : List Outcome) : Outcome :=
  .ofExcept <|
    match v, args with
    | length, [o] => count o
    | v, [left, right] => v.distance left right
    | v, args => .error (.arity (.vector v) args.length)

end VectorFunction

namespace TimeFunction

def apply (t : TimeFunction) (args : List Outcome) : Outcome :=
  let f := Builtin.time t
  .ofExcept <|
    match t, args with
    | ofUnix unit, [o] => ofUnixNumber unit o
    | toUnix unit, [o] => toUnixNumber unit o
    | add, [time, unit, amount] => shift f 1 time unit amount
    | sub, [time, unit, amount] => shift f (-1) time unit amount
    | _, args => .error (.arity f args.length)

end TimeFunction

namespace Builtin

/-- The function on operands of an admissible number. -/
def run (rules : RegexRules) (f : Builtin) (args : List Outcome) : Outcome :=
  match f, args with
  | relation r, [a, b] => r.apply a b
  | inspection i, [o] => i.apply o
  | membership m, search :: rest => m.apply search rest
  | containment .element, [array, wanted] => Containment.inArray array wanted
  | containment c, array :: rest => c.severalInArray array rest
  | connective c, args => c.apply args
  | selection s, args => s.apply args
  | arithmetic op, args => op.apply args
  | text t, args => t.apply args
  | pattern p, [s, t] => .ofExcept (p.apply rules s t)
  | collection c, args => c.apply args
  | vector v, args => v.apply args
  | time t, args => t.apply args
  | documentId, [o] =>
    .ofExcept ((o.reference documentId).map fun key => .string key.documentId)
  | f, args => .error (.arity f args.length)

def apply (rules : RegexRules) (f : Builtin) (args : List Outcome) : Outcome :=
  if f.arity.admits args.length then f.run rules args else .error (.arity f args.length)

end Builtin
end DocQuery
