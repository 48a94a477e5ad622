/-!
Floating-point numbers of 64 bits as exact values: a sign, a significand below 2^53 and an
exponent of two. Every operation computes exactly in integers and rounds once, to the nearest
number and a tie to the even significand.
-/

namespace ReadmePress.Number

/-- A binary64 number. A finite one is `significand * 2 ^ exponent`; the significand is at
least 2^52 unless the exponent is the least, so each number has one form. -/
inductive Binary64 where
  | nan
  | infinite (negative : Bool)
  | finite (negative : Bool) (significand : Nat) (exponent : Int)
  deriving DecidableEq, Repr

/-- The quotient to the nearest integer, a tie to the even one. -/
def roundedQuotient (numerator denominator : Nat) : Nat :=
  let quotient := numerator / denominator
  let remainder := numerator % denominator
  if denominator < 2 * remainder || (2 * remainder == denominator && quotient % 2 == 1) then
    quotient + 1
  else quotient

namespace Binary64

def leastExponent : Int := -1074

def greatestExponent : Int := 971

/-- Zero of either sign. -/
def zeroOf (negative : Bool) : Binary64 := .finite negative 0 leastExponent

/-- `numerator / denominator * 2 ^ exponent` as two integers whose quotient it is. -/
def scaledFraction (numerator denominator : Nat) (exponent : Int) : Nat × Nat :=
  if exponent < 0 then (numerator, denominator * Nat.pow 2 exponent.natAbs)
  else (numerator * Nat.pow 2 exponent.toNat, denominator)

/-- The exponent at which a positive fraction has a significand of 53 bits, or the least. -/
def exponentFor (numerator denominator : Nat) : Int :=
  let guess : Int := (numerator.log2 : Int) - (denominator.log2 : Int) - 52
  let (top, bottom) := scaledFraction numerator denominator (-guess)
  let exact := if top / bottom < Nat.pow 2 52 then guess - 1 else guess
  max exact leastExponent

/-- The number nearest to a fraction. -/
def ofFraction (negative : Bool) (numerator denominator : Nat) : Binary64 :=
  if numerator = 0 then zeroOf negative
  else
    let exponent := exponentFor numerator denominator
    let (top, bottom) := scaledFraction numerator denominator (-exponent)
    let significand := roundedQuotient top bottom
    let carried := significand = Nat.pow 2 53
    let significand := if carried then Nat.pow 2 52 else significand
    let exponent := if carried then exponent + 1 else exponent
    if greatestExponent < exponent then .infinite negative
    else .finite negative significand exponent

/-- The number nearest to `significand * 10 ^ exponent`. An exponent far outside the range is
settled by the digit count alone. -/
def ofDecimal (negative : Bool) (significand : Nat) (exponent : Int) : Binary64 :=
  let digits : Int := (Nat.toDigits 10 significand).length
  if significand = 0 then zeroOf negative
  else if 320 < exponent + digits then .infinite negative
  else if exponent + digits < -340 then zeroOf negative
  else if exponent < 0 then ofFraction negative significand (Nat.pow 10 exponent.natAbs)
  else ofFraction negative (significand * Nat.pow 10 exponent.toNat) 1

/-- The number nearest to an integer. -/
def ofInt (value : Int) : Binary64 := ofFraction (value < 0) value.natAbs 1

/-- A finite number is the quotient of an integer and a power of two. -/
def toFraction (significand : Nat) (exponent : Int) : Nat × Nat :=
  scaledFraction significand 1 exponent

def isInfinite : Binary64 → Bool
  | .infinite _ => true
  | _ => false

def isZero : Binary64 → Bool
  | .finite _ 0 _ => true
  | _ => false

def negate : Binary64 → Binary64
  | .nan => .nan
  | .infinite negative => .infinite (!negative)
  | .finite negative significand exponent => .finite (!negative) significand exponent

def isNegative : Binary64 → Bool
  | .nan => false
  | .infinite negative => negative
  | .finite negative _ _ => negative

/-- The product, rounded once. -/
def multiply : Binary64 → Binary64 → Binary64
  | .nan, _ => .nan
  | _, .nan => .nan
  | .infinite leftNegative, right =>
      if right.isZero then .nan else .infinite (leftNegative != right.isNegative)
  | left, .infinite rightNegative =>
      if left.isZero then .nan else .infinite (left.isNegative != rightNegative)
  | .finite leftNegative leftSignificand leftExponent,
    .finite rightNegative rightSignificand rightExponent =>
      let (top, bottom) :=
        toFraction (leftSignificand * rightSignificand) (leftExponent + rightExponent)
      ofFraction (leftNegative != rightNegative) top bottom

/-- A finite value in units of `2 ^ unit`, exact where the exponent is no less. -/
def inUnits (unit : Int) (negative : Bool) (significand : Nat) (exponent : Int) : Int :=
  let magnitude : Int := (significand * Nat.pow 2 (exponent - unit).toNat : Nat)
  if negative then -magnitude else magnitude

/-- The sum, rounded once. Opposite values add up to positive zero. -/
def add : Binary64 → Binary64 → Binary64
  | .nan, _ => .nan
  | _, .nan => .nan
  | .infinite left, .infinite right => if left = right then .infinite left else .nan
  | .infinite left, _ => .infinite left
  | _, .infinite right => .infinite right
  | .finite leftNegative leftSignificand leftExponent,
    .finite rightNegative rightSignificand rightExponent =>
      let unit := min leftExponent rightExponent
      let total := inUnits unit leftNegative leftSignificand leftExponent
        + inUnits unit rightNegative rightSignificand rightExponent
      if total = 0 then zeroOf (leftNegative && rightNegative)
      else
        let (top, bottom) := toFraction total.natAbs unit
        ofFraction (total < 0) top bottom

/-- The integer that a number equals, if there is one. -/
def toInt? : Binary64 → Option Int
  | .finite negative significand exponent =>
      let (top, bottom) := toFraction significand exponent
      if top % bottom = 0 then
        let magnitude : Int := top / bottom
        some (if negative then -magnitude else magnitude)
      else none
  | _ => none

end Binary64

end ReadmePress.Number
