import ReadmePress.Number.Binary64
import ReadmePress.Number.Integer

/-!
Reading a binary64 number from decimal text: an optional sign, digits with at most one point,
an optional exponent, or one of the names of infinity and of no number. White space around it
is dropped, and single low lines may stand between digits.
-/

namespace ReadmePress.Number

open ReadmePress.Text

/-- Whether a digit comes first. -/
def startsWithDigit (text : List Char) : Bool :=
  ((text.head?.bind digitValue?).map fun _ => true).getD false

/-- The longest run of digits and the rest. A low line is skipped where `afterDigit` holds and
another digit follows it. -/
def digitsAfter : (afterDigit : Bool) → List Char → List Nat × List Char
  | _, [] => ([], [])
  | afterDigit, character :: rest =>
      match digitValue? character with
      | some value =>
          let (digits, remaining) := digitsAfter true rest
          (value :: digits, remaining)
      | none =>
          if afterDigit && character = '_' && startsWithDigit rest then digitsAfter false rest
          else ([], character :: rest)

/-- The longest run of digits and the rest. -/
def spanDigits (text : List Char) : List Nat × List Char := digitsAfter false text

/-- Reads the exponent part of a number, which must take the rest of the text. -/
def readExponent? : List Char → Option Int
  | [] => some 0
  | mark :: rest =>
      if mark = 'e' || mark = 'E' then
        let (negative, unsigned) := takeSign rest
        match spanDigits unsigned with
        | ([], _) => none
        | (digits, []) =>
            let magnitude : Int := ofDigitValues 10 digits
            some (if negative then -magnitude else magnitude)
        | _ => none
      else none

/-- Reads digits, point and exponent. -/
def readFinite? (negative : Bool) (text : List Char) : Option Binary64 :=
  let (whole, afterWhole) := spanDigits text
  let (fraction, afterFraction) :=
    match afterWhole with
    | '.' :: rest => spanDigits rest
    | rest => ([], rest)
  if whole.isEmpty && fraction.isEmpty then none
  else (readExponent? afterFraction).map fun exponent =>
    Binary64.ofDecimal negative (ofDigitValues 10 (whole ++ fraction))
      (exponent - fraction.length)

/-- Reads a number or the name of a value that is no number. -/
def readBinary64? (text : List Char) : Option Binary64 :=
  let (negative, unsigned) := takeSign (trim text)
  let name := String.ofList (unsigned.map Char.toLower)
  if name = "inf" || name = "infinity" then some (.infinite negative)
  else if name = "nan" then some .nan
  else readFinite? negative unsigned

end ReadmePress.Number
