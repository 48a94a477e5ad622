import ReadmePress.Number.Integer
import ReadmePress.Text.Blank
import ReadmePress.Tools.Issue

/-!
Reading argument values. Texts are taken only from texts; truth values also from the numbers 0
and 1 and from certain words; integers also from truth values, from numbers without a fraction
and from texts.
-/

namespace ReadmePress

open ReadmePress.Number ReadmePress.Text

abbrev Reader (Value : Type) := Json → Validated Value

/-- Why a text does not read as an integer argument. -/
inductive IntegerTextFault where
  | malformed
  | tooGreat
  deriving DecidableEq, Repr

namespace IntegerText

/-- White space around an integer. The characters that separate records do not count. -/
def isPadding (character : Char) : Bool :=
  isBlank character && !(28 ≤ character.toNat && character.toNat ≤ 31)

/-- Drops a plus sign. -/
def dropPlus : List Char → Option (List Char)
  | '+' :: '-' :: _ => none
  | '+' :: rest => some rest
  | text => some text

/-- Drops zeros, and low lines among them, after the last one read. One character stays where
no other digit follows. -/
def dropZerosAfter (last : Char) : List Char → Option (List Char)
  | [] => some [last]
  | character :: rest =>
      if character = '0' || character = '_' then dropZerosAfter character rest
      else if character.isDigit then some (character :: rest)
      else if character = '.' then some (last :: character :: rest)
      else none

/-- Drops leading zeros. A number starts with a digit or a minus sign. -/
def dropZeros : List Char → Option (List Char)
  | [] => none
  | '0' :: rest => dropZerosAfter '0' rest
  | first :: rest => if first.isDigit || first = '-' then some (first :: rest) else none

/-- Drops a fraction that is zero. -/
def dropFraction (text : List Char) : List Char :=
  match text.dropWhile (· != '.') with
  | '.' :: fraction =>
      if fraction.all (· == '0') then text.takeWhile (· != '.') else text
  | _ => text

/-- Whether two low lines stand next to each other. -/
def hasDoubleLine : List Char → Bool
  | '_' :: '_' :: _ => true
  | _ :: rest => hasDoubleLine rest
  | [] => false

/-- Drops single low lines inside a text. -/
def dropLines (text : List Char) : List Char :=
  if text.head? = some '_' || text.getLast? = some '_' || hasDoubleLine text then text
  else text.filter (· != '_')

/-- Reads a sign and digits without a leading zero. -/
def readDigits (text : List Char) : Except IntegerTextFault Int :=
  let (negative, digits) :=
    match text with
    | '-' :: digits => (true, digits)
    | digits => (false, digits)
  let leadingZero := digits.head? = some '0' && 1 < digits.length
  if digits.isEmpty || leadingZero || !digits.all Char.isDigit then .error .malformed
  else if digitLimit < digits.length then .error .tooGreat
  else
    let magnitude : Int := ofDigitValues 10 (digits.map fun digit => digit.toNat - 48)
    .ok (if negative then -magnitude else magnitude)

def read (text : List Char) : Except IntegerTextFault Int :=
  let trimmed := ((text.dropWhile isPadding).reverse.dropWhile isPadding).reverse
  match (dropPlus trimmed).bind dropZeros with
  | none => .error .malformed
  | some number => readDigits (dropLines (dropFraction number))

end IntegerText

namespace Reader

variable {Value : Type}

def text (least : Nat) : Reader String := fun input =>
  match input with
  | .string value =>
      match value.toString? with
      | none => Validated.refuse .illFormedText input
      | some value =>
          if value.length < least then Validated.refuse (.tooShort least) input else .ok value
  | _ => Validated.refuse .notText input

/-- Null, or what another reader takes. -/
def optional (reader : Reader Value) : Reader (Option Value) := fun input =>
  match input with
  | .null => .ok none
  | input => (reader input).map some

/-- Items from a place on. The issues of all items count. -/
def itemsFrom (reader : Reader Value) (place : Nat) : List Json → Validated (List Value)
  | [] => .ok []
  | item :: rest =>
      let first := Validated.within (.index place) (reader item)
      let others := itemsFrom reader (place + 1) rest
      match first, others with
      | .ok value, .ok values => .ok (value :: values)
      | _, _ => .error (Validated.issues first ++ Validated.issues others)

def list (reader : Reader Value) : Reader (List Value) := fun input =>
  match input with
  | .array items => itemsFrom reader 0 items
  | _ => Validated.refuse .notList input

/-- The bound of integers that other numbers are converted to. -/
def wordBound : Int := 9223372036854775808

/-- An integer without bounds. -/
def anyInteger : Reader Int := fun input =>
  match input with
  | .bool value => .ok (if value then 1 else 0)
  | .integer value => .ok value
  | .float value =>
      match value, value.toInt? with
      | .finite _ _ _, some integer =>
          if -wordBound < integer && integer < wordBound then .ok integer
          else Validated.refuse .integerTooGreat input
      | .finite _ _ _, none => Validated.refuse .fractional input
      | _, _ => Validated.refuse .notFinite input
  | .string value =>
      match WideText.toChars? value with
      | none => Validated.refuse .illFormedText input
      | some characters =>
          match IntegerText.read characters with
          | .ok integer => .ok integer
          | .error .malformed => Validated.refuse .notIntegerText input
          | .error .tooGreat => Validated.refuse .integerTooGreat input
  | _ => Validated.refuse .notInteger input

/-- An integer within bounds. -/
def integer (least greatest : Int) : Reader Int := fun input => do
  let value ← anyInteger input
  if value < least then Validated.refuse (.below least) input
  else if greatest < value then Validated.refuse (.above greatest) input
  else .ok value

/-- Words for truth values in lower case. -/
def trueWords : List String := ["1", "t", "y", "on", "yes", "true"]

def falseWords : List String := ["0", "f", "n", "no", "off", "false"]

def truthOfInteger (value : Int) (input : Json) : Validated Bool :=
  if value = 0 then .ok false
  else if value = 1 then .ok true
  else Validated.refuse .notTruthText input

def truth : Reader Bool := fun input =>
  match input with
  | .bool value => .ok value
  | .integer value =>
      if -wordBound ≤ value && value < wordBound then truthOfInteger value input
      else Validated.refuse .notTruth input
  | .float value =>
      match value.toInt? with
      | some integer =>
          if -wordBound < integer && integer < wordBound then truthOfInteger integer input
          else Validated.refuse .notTruth input
      | none => Validated.refuse .notTruth input
  | .string value =>
      match value.toString? with
      | none => Validated.refuse .illFormedText input
      | some word =>
          let word := String.ofList (word.toList.map Char.toLower)
          if trueWords.contains word then .ok true
          else if falseWords.contains word then .ok false
          else Validated.refuse .notTruthText input
  | _ => Validated.refuse .notTruth input

/-- One of some texts. -/
def choice (choices : List String) : Reader String := fun input =>
  let refused := Validated.refuse (.notOneOf (" or ".intercalate (choices.map quoted))) input
  match input with
  | .string value =>
      match choices.find? fun choice => value.is choice with
      | some choice => .ok choice
      | none => refused
  | _ => refused

end Reader

end ReadmePress
