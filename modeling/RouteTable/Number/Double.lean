/-
**Binary numbers of double precision.**

A finite number is `± mantissa · 2 ^ exponent`, with a mantissa below `2 ^ 53` and an exponent
from `-1074` to `971`. Decimal text is read to the nearest such number, ties to the even mantissa,
and a number is written with the fewest decimal digits that read back, the nearest of those.

* `roundDiv_close`: a rounded quotient is within half a unit of the exact one;
* `roundDiv_mul`: an exact quotient is kept.
-/

namespace RouteTable

/-- A quotient rounded to the nearest number, ties to the even one. -/
def roundDiv (numerator denominator : Nat) : Nat :=
  let quotient := numerator / denominator
  let rest := numerator % denominator
  if 2 * rest < denominator then quotient
  else if denominator < 2 * rest then quotient + 1
  else if quotient % 2 = 0 then quotient else quotient + 1

theorem roundDiv_close (numerator denominator : Nat) (positive : 0 < denominator) :
    2 * (denominator * roundDiv numerator denominator) ≤ 2 * numerator + denominator ∧
      2 * numerator ≤ 2 * (denominator * roundDiv numerator denominator) + denominator := by
  have split := Nat.div_add_mod numerator denominator
  have small := Nat.mod_lt numerator positive
  simp only [roundDiv]
  split
  · omega
  · split
    · rw [Nat.mul_add]; omega
    · split
      · omega
      · rw [Nat.mul_add]; omega

theorem roundDiv_mul (number denominator : Nat) (positive : 0 < denominator) :
    roundDiv (denominator * number) denominator = number := by
  simp [roundDiv, Nat.mul_div_cancel_left _ positive, positive]

/-- The number of binary digits. -/
def bitLength (number : Nat) : Nat := if number = 0 then 0 else number.log2 + 1

/-- The number of decimal digits; zero has one. -/
def decimalLength (number : Nat) : Nat := (Nat.toDigits 10 number).length

/-- A fraction times a power of a base. -/
def scaleFraction (base : Nat) (power : Int) (fraction : Nat × Nat) : Nat × Nat :=
  if 0 ≤ power then (fraction.1 * base.pow power.toNat, fraction.2)
  else (fraction.1, fraction.2 * base.pow (-power).toNat)

/-- A number of double precision. -/
inductive Double
  | finite (negative : Bool) (mantissa : Nat) (exponent : Int)
  | infinite (negative : Bool)
  | undefined
deriving DecidableEq, Repr, Inhabited

namespace Double

/-- The smallest exponent of a number. -/
def minExponent : Int := -1074

/-- The largest exponent of a number. -/
def maxExponent : Int := 971

/-- The bound of the mantissas, `2 ^ 53`. -/
def mantissaBound : Nat := 9007199254740992

/-- Zero. -/
def zero (negative : Bool) : Double := .finite negative 0 minExponent

/-- The nearest number of a positive fraction. -/
def ofFraction (negative : Bool) (fraction : Nat × Nat) : Double :=
  let estimate : Int := (bitLength fraction.1 : Int) - bitLength fraction.2 - 53
  let shifted := scaleFraction 2 (-estimate) fraction
  let fitting := if shifted.2 * mantissaBound ≤ shifted.1 then estimate + 1 else estimate
  let exponent := max minExponent fitting
  let scaled := scaleFraction 2 (-exponent) fraction
  let mantissa := roundDiv scaled.1 scaled.2
  let (mantissa, exponent) :=
    if mantissa = mantissaBound then (mantissaBound / 2, exponent + 1) else (mantissa, exponent)
  if maxExponent < exponent then .infinite negative else .finite negative mantissa exponent

/-- The nearest number of `digits · 10 ^ power`. -/
def ofDecimal (negative : Bool) (digits : Nat) (power : Int) : Double :=
  let size : Int := decimalLength digits + power
  if digits = 0 ∨ size < -400 then zero negative
  else if 400 < size then .infinite negative
  else ofFraction negative (scaleFraction 10 power (digits, 1))

/-- The absolute value of a finite number as a fraction. -/
def magnitude (mantissa : Nat) (exponent : Int) : Nat × Nat :=
  scaleFraction 2 exponent (mantissa, 1)

/-- Whether a fraction `numerator / denominator` is above the number. -/
def isBelowFraction (number : Double) (numerator : Nat) (denominator : Nat) : Bool :=
  match number with
  | .undefined => false
  | .infinite negative => negative
  | .finite negative mantissa exponent =>
    let size := magnitude mantissa exponent
    if negative then 0 < size.1 || 0 < numerator
    else size.1 * denominator < numerator * size.2

/-- The integer a number equals. -/
def toInt? : Double → Option Int
  | .finite negative mantissa exponent =>
    let size := magnitude mantissa exponent
    if size.1 % size.2 = 0 then
      let whole : Int := (size.1 / size.2 : Nat)
      some (if negative then -whole else whole)
    else none
  | _ => none

/-- The number with the other sign. -/
def negated : Double → Double
  | .finite negative mantissa exponent => .finite (!negative) mantissa exponent
  | .infinite negative => .infinite !negative
  | .undefined => .undefined

/-- The nearest number of a fraction that may be zero. -/
def nearest (fraction : Nat × Nat) : Double :=
  if fraction.1 = 0 then zero false else ofFraction false fraction

/-- The sum of two numbers that are not negative. -/
def plus (first second : Double) : Double :=
  match first, second with
  | .finite _ mantissa exponent, .finite _ otherMantissa otherExponent =>
    let left := magnitude mantissa exponent
    let right := magnitude otherMantissa otherExponent
    nearest (left.1 * right.2 + right.1 * left.2, left.2 * right.2)
  | .finite _ _ _, other => other
  | other, _ => other

/-- A number that is not negative, times a whole number. -/
def times (number : Double) (factor : Nat) : Double :=
  match number with
  | .finite _ mantissa exponent =>
    let size := magnitude mantissa exponent
    nearest (size.1 * factor, size.2)
  | other => other

/-- One in units of `2 ^ -1074`. -/
def unitsOfOne : Int := (Nat.pow 2 1074 : Nat)

/-- A finite number in units of `2 ^ -1074`, by which finite numbers are ordered. -/
def inLeastUnits (negative : Bool) (mantissa : Nat) (exponent : Int) : Int :=
  let size : Int := (mantissa * Nat.pow 2 (exponent - minExponent).toNat : Nat)
  if negative then -size else size

/-! ## The shortest digits -/

/-- The power of ten just above a positive fraction: `10 ^ (k - 1) ≤ fraction < 10 ^ k`. -/
def decimalOrder (fraction : Nat × Nat) : Int :=
  if fraction.2 ≤ fraction.1 then decimalLength (fraction.1 / fraction.2)
  else
    let places := (List.range 400).find? fun places => fraction.2 ≤ fraction.1 * Nat.pow 10 places
    1 - (places.getD 400 : Nat)

/-- The point of the grid of `10 ^ power` that reads back as the number, the nearer of two. -/
def gridPoint? (mantissa : Nat) (exponent power : Int) : Option Nat :=
  let quarter := scaleFraction 10 (-power) (scaleFraction 2 (exponent - 2) (1, 1))
  let value := 4 * mantissa * quarter.1
  let low := if mantissa = mantissaBound / 2 ∧ minExponent < exponent
    then (4 * mantissa - 1) * quarter.1 else (4 * mantissa - 2) * quarter.1
  let high := (4 * mantissa + 2) * quarter.1
  let closed := mantissa % 2 = 0
  let readsBack (point : Nat) : Bool :=
    let scaled := point * quarter.2
    if closed then low ≤ scaled && scaled ≤ high else low < scaled && scaled < high
  let below := value / quarter.2
  let above := below + 1
  match readsBack below, readsBack above with
  | true, true => some (roundDiv value quarter.2)
  | true, false => some below
  | false, true => some above
  | false, false => none

/-- The fewest digits that read back, with the power of ten of the last one. -/
def shortest (mantissa : Nat) (exponent : Int) : Nat × Int :=
  let order := decimalOrder (magnitude mantissa exponent)
  let hits := (List.range 17).filterMap fun count =>
    let power := order - (count + 1 : Nat)
    (gridPoint? mantissa exponent power).map fun point => (point, power)
  hits.head?.getD (0, 0)

/-- Digits without the zeros at their end. -/
def significant (number : Nat) : List Char :=
  ((Nat.toDigits 10 number).reverse.dropWhile (· = '0')).reverse

/-- A positive number: positional from `10 ^ -4` to below `10 ^ 16`, with a power of ten else. -/
def showMagnitude (mantissa : Nat) (exponent : Int) : List Char :=
  let (number, power) := shortest mantissa exponent
  let digits := significant number
  let order : Int := decimalLength number + power
  let size := digits.length
  if order ≤ -4 ∨ 16 < order then
    let scale := order - 1
    let places := Nat.toDigits 10 scale.natAbs
    let places := if places.length < 2 then '0' :: places else places
    let fraction := digits.drop 1
    digits.take 1 ++ (if fraction.isEmpty then [] else '.' :: fraction) ++
      'e' :: (if scale < 0 then '-' else '+') :: places
  else if order ≤ 0 then '0' :: '.' :: (List.replicate (-order).toNat '0' ++ digits)
  else if size ≤ order.toNat then
    digits ++ List.replicate (order.toNat - size) '0' ++ ['.', '0']
  else digits.take order.toNat ++ '.' :: digits.drop order.toNat

/-- A number as text. -/
def text (number : Double) : String :=
  match number with
  | .undefined => "nan"
  | .infinite negative => if negative then "-inf" else "inf"
  | .finite negative mantissa exponent =>
    let sign := if negative then ['-'] else []
    let body := if mantissa = 0 then ['0', '.', '0'] else showMagnitude mantissa exponent
    String.ofList (sign ++ body)

end Double

end RouteTable
