import ReadmePress.Text.Blank
import ReadmePress.Text.Digit
import ReadmePress.Text.Quoted

/-!
Integers as text. Reading admits white space around the number, a sign, single low lines
between digits and the digits of every script. A decimal text of more than 4300 digits is
refused in both directions, so that no conversion takes quadratic time unnoticed.
-/

namespace ReadmePress.Number

open ReadmePress.Text

/-- The longest decimal number that is converted. -/
def digitLimit : Nat := 4300

/-- The decimal digits of a natural number. -/
def natDigits (value : Nat) : List Char := Nat.toDigits 10 value

/-- The decimal text of an integer. -/
def integerDigits : Int → List Char
  | .ofNat magnitude => natDigits magnitude
  | .negSucc predecessor => '-' :: natDigits (predecessor + 1)

/-- Why a text is not converted to an integer. -/
inductive IntegerFault where
  /-- The text is not the number it should be; it is kept for the report. -/
  | malformed (base : Nat) (text : List CodePoint)
  /-- The number of digits, where it is known, exceeds the limit. -/
  | tooLong (digits : Option Nat)
  deriving Repr, DecidableEq

/-- The value of a digit in a base of at most thirty-six: letters of either case follow the
ten digits. -/
def digitIn? (base : Nat) (character : Char) : Option Nat :=
  let value :=
    if 'a' ≤ character && character ≤ 'z' then some (character.toNat - 87)
    else if 'A' ≤ character && character ≤ 'Z' then some (character.toNat - 55)
    else digitValue? character
  value.filter (· < base)

/-- Reads digits with single low lines between them. The flag tells whether a digit came last,
so that a low line may follow and the number may end. -/
def digitRun (base : Nat) : (afterDigit : Bool) → List Char → Option (List Nat)
  | afterDigit, [] => if afterDigit then some [] else none
  | afterDigit, character :: rest =>
      if character = '_' then if afterDigit then digitRun base false rest else none
      else match digitIn? base character with
        | some value => (digitRun base true rest).map (value :: ·)
        | none => none

/-- The number that digits of a base stand for, most significant first. -/
def ofDigitValues (base : Nat) (digits : List Nat) : Nat :=
  digits.foldl (fun total digit => total * base + digit) 0

/-- Splits off a sign. -/
def takeSign : List Char → Bool × List Char
  | '-' :: rest => (true, rest)
  | '+' :: rest => (false, rest)
  | text => (false, text)

def dropBaseMark (base : Nat) : List Char → List Char
  | '0' :: mark :: rest =>
      let announced :=
        if mark = 'x' || mark = 'X' then base == 16
        else if mark = 'o' || mark = 'O' then base == 8
        else if mark = 'b' || mark = 'B' then base == 2
        else false
      if announced then
        match rest with
        | '_' :: digits => digits
        | digits => digits
      else '0' :: mark :: rest
  | text => text

/-- Reads an integer in a base. Only a base that is no power of two has the digit limit. -/
def readInteger (base : Nat) (text : List Char) : Except IntegerFault Int :=
  let (negative, unsigned) := takeSign (trim text)
  match digitRun base false (dropBaseMark base unsigned) with
  | none => .error (.malformed base (text.map .scalar))
  | some digits =>
      if base == 10 && digitLimit < digits.length then .error (.tooLong (some digits.length))
      else
        let magnitude : Int := ofDigitValues base digits
        .ok (if negative then -magnitude else magnitude)

def readDecimal (text : List Char) : Except IntegerFault Int := readInteger 10 text

/-- Writes an integer, unless it has too many digits. -/
def writeDecimal (value : Int) : Except IntegerFault (List Char) :=
  let digits := integerDigits value
  if digitLimit < (natDigits value.natAbs).length then .error (.tooLong none) else .ok digits

/-- The report of an integer that is not converted. A malformed text is quoted, at most the
first two hundred characters of the quotation. -/
def IntegerFault.message : IntegerFault → String
  | .malformed base text =>
      "invalid literal for int() with base " ++ toString base ++ ": "
        ++ String.ofList ((quotedWide text).take 200)
  | .tooLong digits =>
      let found := digits.elim "" fun count => ": value has " ++ toString count ++ " digits"
      "Exceeds the limit (4300 digits) for integer string conversion" ++ found
        ++ "; use sys.set_int_max_str_digits() to increase the limit"

end ReadmePress.Number
