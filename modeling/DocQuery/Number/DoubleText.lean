import DocQuery.Number.Rounding
import DocQuery.Text.Digits

/-! The text of a double: the fewest digits that read back, positional for magnitudes from `1e-4` up
to `1e16` and with an exponent elsewhere. Reading accepts any decimal notation and rounds once. -/
namespace DocQuery

/-- The number `digits * 10 ^ exponent`. -/
structure Decimal where
  digits : Nat
  exponent : Int
  deriving DecidableEq

/-- Removes the zeros at the end of the digits. -/
def Decimal.strip (decimal : Decimal) : Decimal :=
  if h : decimal.digits ≠ 0 ∧ decimal.digits % 10 = 0 then
    strip ⟨decimal.digits / 10, decimal.exponent + 1⟩
  else decimal
termination_by decimal.digits
decreasing_by omega

namespace Double

/-- The power of ten of the leading digit of a finite non-zero double. -/
def leadingPower (d : Double) : Int :=
  (digitCount (d.units * Nat.pow 10 400 / unitsPerOne) : Int) - 401

/-- The decimals next to a magnitude on the grid of multiples of `10 ^ power`, the nearer one first;
the upper one where both are equally near. -/
def neighbours (d : Double) (power : Int) : List Decimal :=
  let (num, den) :=
    if 0 ≤ power then (d.units, unitsPerOne * Nat.pow 10 power.toNat)
    else (d.units * Nat.pow 10 (-power).toNat, unitsPerOne)
  let below : Decimal := ⟨num / den, power⟩
  let above : Decimal := ⟨num / den + 1, power⟩
  if 2 * (num % den) < den then [below, above] else [above, below]

/-- Every finite magnitude is a decimal with 1074 places. -/
def exactDecimal (d : Double) : Decimal := ⟨d.units * Nat.pow 5 1074, -1074⟩

def readsBack (d : Double) (decimal : Decimal) : Bool :=
  ofDecimal d.isNegative decimal.digits decimal.exponent = d

/-- The fewest digits that read back, and of those the nearest to the number. -/
def shortest (d : Double) : Decimal :=
  let power := d.leadingPower
  let tries := (List.range 17).flatMap fun (n : Nat) => d.neighbours (power - (n : Int))
  (tries.find? d.readsBack).getD d.exactDecimal

/-- Positional notation with at least one digit on either side of the point. -/
def positional (digits : String) (exponent : Int) : String :=
  let point : Int := digits.length + exponent
  if 0 ≤ exponent then digits ++ "".pushn '0' exponent.toNat ++ ".0"
  else if 0 < point then
    String.ofList (digits.toList.take point.toNat) ++ "." ++
      String.ofList (digits.toList.drop point.toNat)
  else "0." ++ "".pushn '0' (-point).toNat ++ digits

/-- Notation with one digit before the point and no point after a lone digit. -/
def scientific (digits : String) (exponent : Int) : String :=
  let power : Int := digits.length + exponent - 1
  let fraction := String.ofList (digits.toList.drop 1)
  String.ofList (digits.toList.take 1) ++ (if fraction.isEmpty then "" else "." ++ fraction) ++
    "e" ++ toString power

def magnitudeText (d : Double) : String :=
  if d.isZero then "0.0"
  else
    let decimal := d.shortest.strip
    let digits := toString decimal.digits
    let power : Int := digits.length + decimal.exponent - 1
    if -4 ≤ power ∧ power < 16 then positional digits decimal.exponent
    else scientific digits decimal.exponent

def text (d : Double) : String :=
  if d.isNaN then "NaN"
  else (if d.isNegative then "-" else "") ++ (if d.isInfinite then "inf" else d.magnitudeText)

instance : ToString Double := ⟨text⟩

/-- Reads an exponent mark with its number; no mark is the exponent zero. -/
def parseExponent? : List Char → Option Int
  | [] => some 0
  | mark :: rest =>
    if mark = 'e' ∨ mark = 'E' then
      let (negative, digits) :=
        match rest with
        | '-' :: digits => (true, digits)
        | '+' :: digits => (false, digits)
        | digits => (false, digits)
      if digits ≠ [] ∧ digits.all Char.isDigit then
        some (if negative then -(digitsValue digits : Int) else digitsValue digits)
      else none
    else none

/-- Reads digits with an optional point and exponent; one side of the point may be empty. -/
def parseDecimal? (negative : Bool) (cs : List Char) : Option Double :=
  let (before, rest) := spanDigits cs
  let (after, rest) :=
    match rest with
    | '.' :: rest => spanDigits rest
    | rest => ([], rest)
  if before = [] ∧ after = [] then none
  else
    (parseExponent? rest).map fun exponent =>
      ofDecimal negative (digitsValue (before ++ after)) (exponent - after.length)

/-- Reads a signed decimal, `inf`, `infinity` or `nan`, the words in any case. -/
def parse? (text : String) : Option Double :=
  let (negative, cs) :=
    match text.toList with
    | '-' :: cs => (true, cs)
    | '+' :: cs => (false, cs)
    | cs => (false, cs)
  let word := String.ofList (cs.map Char.toLower)
  if word = "inf" ∨ word = "infinity" then some (infinite negative)
  else if word = "nan" then some nan
  else parseDecimal? negative cs

end Double
end DocQuery
