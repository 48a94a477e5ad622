import ReadmePress.Number.Binary64

/-!
The shortest decimal that reads back as a binary64 number, and its layout. For one digit up to
seventeen the two decimals around the exact value are tried; the first grid that holds one
reading back wins, and of two the nearer.
-/

namespace ReadmePress.Number

/-- A positive decimal: the digits, and the power of ten that follows the digit string when it
is read as `0.d₁d₂…`. -/
structure ShortDecimal where
  digits : List Char
  pointAt : Int
  deriving DecidableEq, Repr

namespace Binary64

/-- The value of `top / bottom` in units of `10 ^ unit`, rounded down, and the remainder of the
division as a fraction of its denominator. -/
def decimalFloor (top bottom : Nat) (unit : Int) : Nat × Nat × Nat :=
  let (top, bottom) :=
    if unit < 0 then (top * Nat.pow 10 unit.natAbs, bottom)
    else (top, bottom * Nat.pow 10 unit.toNat)
  (top / bottom, top % bottom, bottom)

/-- The power of ten just above a positive fraction: `10 ^ (p - 1) ≤ top / bottom < 10 ^ p`. -/
def decimalPoint (top bottom : Nat) : Int :=
  let guess : Int := (Nat.toDigits 10 top).length - (Nat.toDigits 10 bottom).length
  let (whole, _, _) := decimalFloor top bottom guess
  if whole = 0 then guess else guess + 1

/-- The decimal of this many digits that reads back and is nearest, if there is one. -/
def decimalOfWidth? (significand : Nat) (exponent : Int) (width : Nat) :
    Option (Nat × Int) :=
  let (top, bottom) := toFraction significand exponent
  let unit := decimalPoint top bottom - width
  let (below, remainder, whole) := decimalFloor top bottom unit
  let readsBack := fun (candidate : Nat) =>
    0 < candidate && ofDecimal false candidate unit = .finite false significand exponent
  let belowNearer := 2 * remainder < whole || (2 * remainder = whole && below % 2 = 0)
  if readsBack below && (belowNearer || !readsBack (below + 1)) then some (below, unit)
  else if readsBack (below + 1) then some (below + 1, unit)
  else none

/-- The first width from `width` on that has a decimal reading back. -/
def shortestFrom (significand : Nat) (exponent : Int) (width : Nat) : (more : Nat) → Nat × Int
  | 0 => ((decimalOfWidth? significand exponent width).getD (0, 0))
  | more + 1 =>
      match decimalOfWidth? significand exponent width with
      | some decimal => decimal
      | none => shortestFrom significand exponent (width + 1) more

/-- The shortest decimal of a positive finite number. -/
def shortest (significand : Nat) (exponent : Int) : ShortDecimal :=
  let (value, unit) := shortestFrom significand exponent 1 16
  let digits := Nat.toDigits 10 value
  let kept := (digits.reverse.dropWhile (· = '0')).reverse
  { digits := kept, pointAt := unit + digits.length }

end Binary64

/-- The exponent part: a sign and at least two digits. -/
def exponentText (exponent : Int) : List Char :=
  let digits := Nat.toDigits 10 exponent.natAbs
  'e' :: (if exponent < 0 then '-' else '+') ::
    (if digits.length < 2 then '0' :: digits else digits)

/-- Lays out a decimal: positional from 0.0001 up to below 10^16, always with a fraction, and
with an exponent otherwise. -/
def ShortDecimal.text (decimal : ShortDecimal) : List Char :=
  let count := decimal.digits.length
  if decimal.pointAt ≤ -4 || 16 < decimal.pointAt then
    match decimal.digits with
    | [] => []
    | [digit] => digit :: exponentText (decimal.pointAt - 1)
    | digit :: more => digit :: '.' :: more ++ exponentText (decimal.pointAt - 1)
  else if decimal.pointAt ≤ 0 then
    '0' :: '.' :: List.replicate decimal.pointAt.natAbs '0' ++ decimal.digits
  else
    let whole := decimal.pointAt.toNat
    if count ≤ whole then decimal.digits ++ List.replicate (whole - count) '0' ++ ['.', '0']
    else decimal.digits.take whole ++ '.' :: decimal.digits.drop whole

/-- The text of a number. -/
def Binary64.text : Binary64 → List Char
  | .nan => ['n', 'a', 'n']
  | .infinite negative => (if negative then ['-'] else []) ++ ['i', 'n', 'f']
  | .finite negative significand exponent =>
      (if negative then ['-'] else []) ++
        (if significand = 0 then ['0', '.', '0'] else (shortest significand exponent).text)

end ReadmePress.Number
