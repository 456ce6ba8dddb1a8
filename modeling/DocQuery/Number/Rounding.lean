import DocQuery.Number.Double

/-! Rounding an exact ratio to the nearest double, ties to the even code, and the arithmetic that it
gives: each operation is the exact result, rounded once. -/
namespace DocQuery

/-- The whole number nearest to a ratio, a half going to the even neighbour. -/
def nearestEven (num den : Nat) : Nat :=
  let q := num / den
  let r := num % den
  if 2 * r < den then q
  else if den < 2 * r then q + 1
  else if q % 2 = 0 then q else q + 1

/-- Rounds a number to a multiple of the power of two that leaves 53 digits, counted from the units
place. A carry into the next power leads to the code that follows, infinity included. -/
def magnitudeCode (num den : Nat) : Nat :=
  let shift := (num / den).log2 - 52
  min (shift * 0x10000000000000 + nearestEven num (den * Nat.pow 2 shift)) 0x7ff0000000000000

/-- The integer square root, two binary digits at a time. -/
def squareRoot (n : Nat) : Nat :=
  if h : n = 0 then 0
  else
    let r := 2 * squareRoot (n / 4)
    if (r + 1) * (r + 1) ≤ n then r + 1 else r
termination_by n
decreasing_by omega

namespace Double

/-- The double nearest to `num / den` units of `2 ^ -1074`. -/
def ofRatio (negative : Bool) (num den : Nat) : Double :=
  ofBits (UInt64.ofNat ((if negative then 0x8000000000000000 else 0) + magnitudeCode num den))

def ofInt (i : Int) : Double := ofRatio (i < 0) (i.natAbs * unitsPerOne) 1

def digitCount (n : Nat) : Nat := (Nat.toDigits 10 n).length

/-- The double nearest to `digits * 10 ^ exponent`. Beyond the four hundredth power in either
direction the answer is infinity or zero. -/
def ofDecimal (negative : Bool) (digits : Nat) (exponent : Int) : Double :=
  if digits = 0 ∨ exponent + digitCount digits < -400 then signedZero negative
  else if 400 < exponent + digitCount digits then infinite negative
  else if 0 ≤ exponent then ofRatio negative (digits * Nat.pow 10 exponent.toNat * unitsPerOne) 1
  else ofRatio negative (digits * unitsPerOne) (Nat.pow 10 (-exponent).toNat)

def add (a b : Double) : Double :=
  if a.isNaN || b.isNaN then nan
  else if a.isInfinite then
    if b.isInfinite && a.isNegative != b.isNegative then nan else a
  else if b.isInfinite then b
  else
    let sum := a.scaled + b.scaled
    if sum = 0 then signedZero (a.isNegative && b.isNegative)
    else ofRatio (sum < 0) sum.natAbs 1

def sub (a b : Double) : Double := a.add b.neg

def mul (a b : Double) : Double :=
  let negative := a.isNegative != b.isNegative
  if a.isNaN || b.isNaN then nan
  else if a.isInfinite || b.isInfinite then
    if a.isZero || b.isZero then nan else infinite negative
  else ofRatio negative (a.units * b.units) unitsPerOne

def div (a b : Double) : Double :=
  let negative := a.isNegative != b.isNegative
  if a.isNaN || b.isNaN then nan
  else if a.isInfinite then if b.isInfinite then nan else infinite negative
  else if b.isInfinite then signedZero negative
  else if b.isZero then if a.isZero then nan else infinite negative
  else ofRatio negative (a.units * unitsPerOne) b.units

/-- The remainder of the division truncated toward zero, which is exact and has the sign of the
dividend. -/
def rem (a b : Double) : Double :=
  if a.isNaN || b.isNaN || a.isInfinite || b.isZero then nan
  else if b.isInfinite then a
  else ofRatio a.isNegative (a.units % b.units) 1

/-- The integer root carries over five hundred digits, so a last place that says whether it is exact
settles the rounding. -/
def sqrt (d : Double) : Double :=
  if d.isNaN then nan
  else if d.isZero then d
  else if d.isNegative then nan
  else if d.isInfinite then d
  else
    let square := d.units * unitsPerOne
    let root := squareRoot square
    ofRatio false (2 * root + if root * root = square then 0 else 1) 2

instance : Add Double := ⟨add⟩
instance : Sub Double := ⟨sub⟩
instance : Mul Double := ⟨mul⟩
instance : Div Double := ⟨div⟩
instance : Mod Double := ⟨rem⟩
instance : Neg Double := ⟨neg⟩

/-- Sums from the left, starting from negative zero, the neutral element of addition. -/
def sum (ds : List Double) : Double := ds.foldl add negativeZero

end Double
end DocQuery
