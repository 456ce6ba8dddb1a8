/-! The functions that expressions can call, by family, with their names and argument counts. -/
namespace DocQuery

inductive Relation where
  | eq
  | neq
  | lt
  | lte
  | gt
  | gte
  deriving DecidableEq

/-- Tests of one operand. -/
inductive Inspection where
  | exists
  | isAbsent
  | isNull
  | isNotNull
  | isNaN
  | isNotNaN
  deriving DecidableEq

inductive Membership where
  | eqAny
  | notEqAny
  deriving DecidableEq

inductive Containment where
  | element
  | all
  | any
  deriving DecidableEq

inductive Connective where
  | and
  | or
  | xor
  | not
  deriving DecidableEq

inductive Selection where
  | isError
  | ifError
  | cond
  | maximum
  | minimum
  deriving DecidableEq

inductive Arithmetic where
  | add
  | subtract
  | multiply
  | divide
  | mod
  deriving DecidableEq

inductive TextFunction where
  | charLength
  | byteLength
  | toLower
  | toUpper
  | trim
  | reverse
  | concat
  | substr
  | replaceFirst
  | replaceAll
  | contains
  | startsWith
  | endsWith
  deriving DecidableEq

inductive PatternTest where
  | like
  | regexContains
  | regexMatch
  deriving DecidableEq

inductive CollectionFunction where
  | arrayLength
  | arrayReverse
  | arrayConcat
  | arrayGet
  | map
  | mapGet
  | mapMerge
  | mapRemove
  deriving DecidableEq

inductive VectorFunction where
  | cosine
  | dotProduct
  | euclidean
  | manhattan
  | length
  deriving DecidableEq

inductive TimeUnit where
  | micros
  | millis
  | seconds
  deriving DecidableEq

inductive TimeFunction where
  | ofUnix (unit : TimeUnit)
  | toUnix (unit : TimeUnit)
  | add
  | sub
  deriving DecidableEq

inductive Builtin where
  | relation (r : Relation)
  | inspection (i : Inspection)
  | membership (m : Membership)
  | containment (c : Containment)
  | connective (c : Connective)
  | selection (s : Selection)
  | arithmetic (a : Arithmetic)
  | text (t : TextFunction)
  | pattern (p : PatternTest)
  | collection (c : CollectionFunction)
  | vector (v : VectorFunction)
  | time (t : TimeFunction)
  | documentId
  deriving DecidableEq

/-- How many arguments a function takes. -/
inductive Arity where
  | exactly (n : Nat)
  | atLeast (n : Nat)
  | twoOrThree
  | even
  deriving DecidableEq

namespace Arity

def admits : Arity → Nat → Bool
  | exactly n, count => count == n
  | atLeast n, count => n ≤ count
  | twoOrThree, count => count == 2 || count == 3
  | even, count => count % 2 == 0

def text : Arity → String
  | exactly n => toString n
  | atLeast n => "at least " ++ toString n
  | twoOrThree => "2 or 3"
  | even => "an even number of"

end Arity

namespace Builtin

def all : List Builtin :=
  [.relation .eq, .relation .neq, .relation .lt, .relation .lte, .relation .gt, .relation .gte,
    .membership .eqAny, .membership .notEqAny,
    .inspection .exists, .inspection .isAbsent, .inspection .isNull, .inspection .isNotNull,
    .inspection .isNaN, .inspection .isNotNaN,
    .containment .element, .containment .all, .containment .any,
    .connective .and, .connective .or, .connective .xor, .connective .not,
    .selection .isError, .selection .ifError, .selection .cond, .selection .maximum,
    .selection .minimum,
    .arithmetic .add, .arithmetic .subtract, .arithmetic .multiply, .arithmetic .divide,
    .arithmetic .mod,
    .text .charLength, .text .byteLength, .text .toLower, .text .toUpper, .text .trim,
    .text .reverse, .text .concat, .text .substr, .text .replaceFirst, .text .replaceAll,
    .text .contains, .text .startsWith, .text .endsWith,
    .pattern .like, .pattern .regexContains, .pattern .regexMatch,
    .collection .arrayLength, .collection .arrayReverse, .collection .arrayConcat,
    .collection .arrayGet, .collection .map, .collection .mapGet, .collection .mapMerge,
    .collection .mapRemove,
    .vector .cosine, .vector .dotProduct, .vector .euclidean, .vector .manhattan, .vector .length,
    .time (.ofUnix .micros), .time (.ofUnix .millis), .time (.ofUnix .seconds),
    .time (.toUnix .micros), .time (.toUnix .millis), .time (.toUnix .seconds),
    .time .add, .time .sub,
    .documentId]

def name : Builtin → String
  | relation .eq => "eq"
  | relation .neq => "neq"
  | relation .lt => "lt"
  | relation .lte => "lte"
  | relation .gt => "gt"
  | relation .gte => "gte"
  | membership .eqAny => "eq_any"
  | membership .notEqAny => "not_eq_any"
  | inspection .exists => "exists"
  | inspection .isAbsent => "is_absent"
  | inspection .isNull => "is_null"
  | inspection .isNotNull => "is_not_null"
  | inspection .isNaN => "is_nan"
  | inspection .isNotNaN => "is_not_nan"
  | containment .element => "array_contains"
  | containment .all => "array_contains_all"
  | containment .any => "array_contains_any"
  | connective .and => "and"
  | connective .or => "or"
  | connective .xor => "xor"
  | connective .not => "not"
  | selection .isError => "is_error"
  | selection .ifError => "if_error"
  | selection .cond => "cond"
  | selection .maximum => "logical_maximum"
  | selection .minimum => "logical_minimum"
  | arithmetic .add => "add"
  | arithmetic .subtract => "subtract"
  | arithmetic .multiply => "multiply"
  | arithmetic .divide => "divide"
  | arithmetic .mod => "mod"
  | text .charLength => "char_length"
  | text .byteLength => "byte_length"
  | text .toLower => "to_lower"
  | text .toUpper => "to_upper"
  | text .trim => "trim"
  | text .reverse => "reverse"
  | text .concat => "str_concat"
  | text .substr => "substr"
  | text .replaceFirst => "replace_first"
  | text .replaceAll => "replace_all"
  | text .contains => "str_contains"
  | text .startsWith => "starts_with"
  | text .endsWith => "ends_with"
  | pattern .like => "like"
  | pattern .regexContains => "regex_contains"
  | pattern .regexMatch => "regex_match"
  | collection .arrayLength => "array_length"
  | collection .arrayReverse => "array_reverse"
  | collection .arrayConcat => "array_concat"
  | collection .arrayGet => "array_get"
  | collection .map => "map"
  | collection .mapGet => "map_get"
  | collection .mapMerge => "map_merge"
  | collection .mapRemove => "map_remove"
  | vector .cosine => "cosine_distance"
  | vector .dotProduct => "dot_product"
  | vector .euclidean => "euclidean_distance"
  | vector .manhattan => "manhattan_distance"
  | vector .length => "vector_length"
  | time (.ofUnix .micros) => "unix_micros_to_timestamp"
  | time (.ofUnix .millis) => "unix_millis_to_timestamp"
  | time (.ofUnix .seconds) => "unix_seconds_to_timestamp"
  | time (.toUnix .micros) => "timestamp_to_unix_micros"
  | time (.toUnix .millis) => "timestamp_to_unix_millis"
  | time (.toUnix .seconds) => "timestamp_to_unix_seconds"
  | time .add => "timestamp_add"
  | time .sub => "timestamp_sub"
  | documentId => "document_id"

/-- Finds a function by its name; one function has a second name. -/
def ofName? (name : String) : Option Builtin :=
  if name = "array_offset" then some (collection .arrayGet) else all.find? (·.name = name)

/-- Whether every value of the function is a boolean. -/
def isPredicate : Builtin → Bool
  | relation _ | inspection _ | membership _ | containment _ | connective _ => true
  | selection .isError => true
  | text .contains | text .startsWith | text .endsWith => true
  | pattern _ => true
  | _ => false

def arity : Builtin → Arity
  | relation _ => .exactly 2
  | inspection _ => .exactly 1
  | membership _ => .atLeast 2
  | containment .element => .exactly 2
  | containment _ => .atLeast 2
  | connective .not => .exactly 1
  | connective _ => .atLeast 1
  | selection .isError => .exactly 1
  | selection .ifError => .exactly 2
  | selection .cond => .exactly 3
  | selection _ => .atLeast 1
  | arithmetic .add | arithmetic .multiply => .atLeast 2
  | arithmetic _ => .exactly 2
  | text .charLength | text .byteLength => .exactly 1
  | text .toLower | text .toUpper | text .trim | text .reverse => .exactly 1
  | text .concat => .atLeast 1
  | text .substr => .twoOrThree
  | text .replaceFirst | text .replaceAll => .exactly 3
  | text _ => .exactly 2
  | pattern _ => .exactly 2
  | collection .arrayLength | collection .arrayReverse => .exactly 1
  | collection .arrayConcat | collection .mapMerge => .atLeast 1
  | collection .map => .even
  | collection _ => .exactly 2
  | vector .length => .exactly 1
  | vector _ => .exactly 2
  | time (.ofUnix _) | time (.toUnix _) => .exactly 1
  | time _ => .exactly 3
  | documentId => .exactly 1

end Builtin

/-- What a group of rows can be summed up to. -/
inductive Aggregation where
  | count
  | countIf
  | countDistinct
  | sum
  | average
  | minimum
  | maximum
  deriving DecidableEq

namespace Aggregation

def all : List Aggregation := [count, countIf, countDistinct, sum, average, minimum, maximum]

def name : Aggregation → String
  | count => "count"
  | countIf => "count_if"
  | countDistinct => "count_distinct"
  | sum => "sum"
  | average => "average"
  | minimum => "minimum"
  | maximum => "maximum"

def ofName? (name : String) : Option Aggregation :=
  if name = "avg" then some average else all.find? (·.name = name)

end Aggregation
end DocQuery
