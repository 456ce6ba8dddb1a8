import DocQuery.Eval.Error

/-! Functions of instants. -/
namespace DocQuery

namespace TimeFunction

/-- The length of a named unit in microseconds. -/
def unitMicros? (unit : String) : Option Int :=
  match unit with
  | "microsecond" => some 1
  | "millisecond" => some 1000
  | "second" => some 1000000
  | "minute" => some 60000000
  | "hour" => some 3600000000
  | "day" => some 86400000000
  | _ => none

def inRange (f : Builtin) : Option Timestamp → Except EvalError Value
  | some t => .ok (.timestamp t)
  | none => .error (.outOfRange f)

def ofUnixNumber (unit : TimeUnit) (o : Outcome) : Except EvalError Value := do
  let f := Builtin.time (.ofUnix unit)
  let n := (← o.integer f).toInt
  inRange f (match unit with
    | .micros => Timestamp.ofMicros? n
    | .millis => Timestamp.ofMillis? n
    | .seconds => Timestamp.ofSeconds? n)

def toUnixNumber (unit : TimeUnit) (o : Outcome) : Except EvalError Value := do
  let t ← o.timestamp (.time (.toUnix unit))
  return .integer (Int64.ofInt (match unit with
    | .micros => t.unixMicros
    | .millis => t.unixMillis
    | .seconds => t.unixSeconds))

/-- Moves an instant; the sign is that of the direction. All operands are read before the unit is
looked up. -/
def shift (f : Builtin) (sign : Int) (time unit amount : Outcome) : Except EvalError Value := do
  let t ← time.timestamp f
  let u ← unit.string f
  let n ← amount.integer f
  match unitMicros? u with
  | none => throw (.invalidArgument f (.unknownTimeUnit u))
  | some micros => inRange f (t.addMicros? (sign * (n.toInt * micros)))

end TimeFunction
end DocQuery
