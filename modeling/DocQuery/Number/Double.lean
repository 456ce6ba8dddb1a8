/-! Binary64 numbers as bit codes with a single NaN. Every magnitude is a whole number of the least
positive double, so comparison, truncation and rounding are exact integer arithmetic. -/
namespace DocQuery

/-- The quiet NaN without payload, the only one that a `Double` holds. -/
def nanBits : UInt64 := 0x7ff8000000000000

def isNaNBits (bits : UInt64) : Bool := 0x7ff0000000000000 < bits.toNat % 0x8000000000000000

structure Double where
  bits : UInt64
  single_nan : isNaNBits bits = true → bits = nanBits
  deriving DecidableEq

namespace Double

def nan : Double := ⟨nanBits, fun _ => rfl⟩

instance : Inhabited Double := ⟨nan⟩

/-- All NaN codes denote the one NaN. -/
def ofBits (bits : UInt64) : Double :=
  if h : isNaNBits bits = true then nan else ⟨bits, fun hn => absurd hn h⟩

def zero : Double := ofBits 0
def negativeZero : Double := ofBits 0x8000000000000000
def one : Double := ofBits 0x3ff0000000000000

def exponent (d : Double) : Nat := d.bits.toNat / 0x10000000000000 % 2048
def fraction (d : Double) : Nat := d.bits.toNat % 0x10000000000000

/-- The sign place of the code; it is set for negative zero too. -/
def isNegative (d : Double) : Bool := 0x8000000000000000 ≤ d.bits.toNat

def isNaN (d : Double) : Bool := d.exponent = 2047 && d.fraction ≠ 0
def isInfinite (d : Double) : Bool := d.exponent = 2047 && d.fraction = 0
def isFinite (d : Double) : Bool := d.exponent ≠ 2047

/-- How many units of `2 ^ -1074` make one. -/
def unitsPerOne : Nat := Nat.pow 2 1074

/-- The magnitude in units of `2 ^ -1074`. The formula gives infinity `2 ^ 2098` units, above every
finite magnitude. -/
def units (d : Double) : Nat :=
  if d.exponent = 0 then d.fraction else (0x10000000000000 + d.fraction) * Nat.pow 2 (d.exponent - 1)

def scaled (d : Double) : Int := if d.isNegative then -(d.units : Int) else d.units

def isZero (d : Double) : Bool := d.units = 0

def infinite (negative : Bool) : Double :=
  ofBits (if negative then 0xfff0000000000000 else 0x7ff0000000000000)

def signedZero (negative : Bool) : Double := if negative then negativeZero else zero

def withSign (negative : Bool) (d : Double) : Double :=
  if d.isNaN then d
  else ofBits (UInt64.ofNat ((if negative then 0x8000000000000000 else 0) + d.bits.toNat % 0x8000000000000000))

def neg (d : Double) : Double := d.withSign (!d.isNegative)
def abs (d : Double) : Double := d.withSign false

/-- Numeric comparison, undefined on NaN; the zeros are equal. -/
def compare? (a b : Double) : Option Ordering :=
  if a.isNaN || b.isNaN then none else some (compare a.scaled b.scaled)

/-- Numeric equality: the zeros are equal and NaN equals nothing. -/
def equals (a b : Double) : Bool := !a.isNaN && !b.isNaN && a.scaled == b.scaled

/-- Numeric comparison with NaN before every number. -/
def order (a b : Double) : Ordering :=
  match a.isNaN, b.isNaN with
  | true, true => .eq
  | true, false => .lt
  | false, true => .gt
  | false, false => compare a.scaled b.scaled

/-- Numeric comparison in which negative zero comes before zero; meant for numbers. -/
def signedOrder (a b : Double) : Ordering :=
  (compare a.scaled b.scaled).then (compare b.isNegative.toNat a.isNegative.toNat)

/-- The number without its fraction, rounded toward zero; meant for finite doubles. -/
def whole (d : Double) : Int := d.scaled.tdiv unitsPerOne

/-- What `whole` leaves, in units of `2 ^ -1074`, with the sign of the number. -/
def wholeRemainder (d : Double) : Int := d.scaled.tmod unitsPerOne

def isWhole (d : Double) : Bool := d.isFinite && d.wholeRemainder = 0

end Double

/-- Compares an integer with a number that is not NaN: first by range, then with the number's whole
part, then by the sign of its fraction. No rounding takes place. -/
def compareIntDouble (i : Int64) (d : Double) : Ordering :=
  if (0x8000000000000000 : Int) * Double.unitsPerOne ≤ d.scaled then .lt
  else if d.scaled < (-0x8000000000000000 : Int) * Double.unitsPerOne then .gt
  else (compare i.toInt d.whole).then (compare 0 d.wholeRemainder)

end DocQuery
