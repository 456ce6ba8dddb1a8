import DocQuery.Number.DoubleText

/-! JSON documents as they are written: members in order, numbers as their digits. -/
namespace DocQuery

/-- The digits of a number; `exponent` is none where the text has no exponent mark. -/
structure JsonNumber where
  negative : Bool
  whole : List Char
  fraction : List Char
  exponent : Option Int

/-- A text, or none where its escapes name half of a surrogate pair. -/
abbrev JsonText := Option String

inductive Json where
  | null
  | boolean (b : Bool)
  | number (n : JsonNumber)
  | string (s : JsonText)
  | array (items : List Json)
  | object (members : List (JsonText × Json))

namespace JsonNumber

/-- Appends digits as long as the result fits 64 bits; tells what is left. -/
def appendDigits (significand : Nat) : List Char → Nat × List Char
  | [] => (significand, [])
  | c :: cs =>
    let next := significand * 10 + (c.toNat - 48)
    if next < 0x10000000000000000 then appendDigits next cs else (significand, c :: cs)

def powerOfTen (n : Nat) : Double := Double.ofDecimal false 1 n

/-- Divides by a power of ten, in steps that are doubles themselves. -/
def divideByPower (d : Double) (power : Nat) : Double :=
  if power ≤ 308 then d / powerOfTen power
  else if d.isZero then d
  else divideByPower (d / powerOfTen 308) (power - 308)
termination_by power

/-- Times a power of ten; none where the result leaves the range of doubles. -/
def scale? (d : Double) (power : Int) : Option Double :=
  if power < 0 then some (divideByPower d (-power).toNat)
  else if 308 < power then if d.isZero then some d else none
  else
    let scaled := d * powerOfTen power.toNat
    if scaled.isInfinite then none else some scaled

/-- The leading digits that fit 64 bits, times the power of ten that the notation leaves. Digits
after them only count as places. -/
def toDouble? (n : JsonNumber) : Option Double :=
  let (head, dropped) := appendDigits 0 n.whole
  let (significand, rest) := appendDigits head n.fraction
  let places : Int := dropped.length - (n.fraction.length - rest.length : Nat)
  (scale? (Double.ofInt significand) (places + n.exponent.getD 0)).map fun d =>
    if n.negative then -d else d

def isInteger (n : JsonNumber) : Bool := n.fraction.isEmpty && n.exponent.isNone

def toNat (n : JsonNumber) : Nat := digitsValue n.whole

/-- The value of a number without fraction and exponent, unless it is negative zero. -/
def toInt? (n : JsonNumber) : Option Int :=
  if !n.isInteger || (n.negative && n.toNat == 0) then none
  else some (if n.negative then -n.toNat else n.toNat)

end JsonNumber

mutual

/-- How many arrays and objects enclose the innermost of them, itself included. -/
def Json.depth : Json → Nat
  | .array items => itemsDepth items + 1
  | .object members => membersDepth members + 1
  | _ => 0

def itemsDepth : List Json → Nat
  | [] => 0
  | item :: items => max item.depth (itemsDepth items)

def membersDepth : List (JsonText × Json) → Nat
  | [] => 0
  | (_, value) :: members => max value.depth (membersDepth members)

end
end DocQuery
