import ReadmePress.Number.Decimal
import ReadmePress.Text.Lowercase
import ReadmePress.Yaml.Graph

/-!
The values that scalars stand for. A tag may be put on a scalar of any form, so each rule says
what becomes of a text that has not the form of its kind.
-/

namespace ReadmePress.Yaml

open ReadmePress.Number ReadmePress.Text

/-- The value of a node. What a collection holds is in the graph. -/
inductive Value where
  | null
  | bool (value : Bool)
  | integer (value : Int)
  | float (value : Binary64)
  | bytes (value : List UInt8)
  | timestamp
  | text (value : WideText)
  | sequence
  | mapping
  | set
  deriving DecidableEq, Repr

namespace Value

def isKey : Value → Bool
  | .sequence => false
  | .mapping => false
  | .set => false
  | _ => true

end Value

/-- A text without low lines. -/
def dropLines (text : WideText) : WideText := text.filter (· != .scalar '_')

/-- Lower case of a text, surrogates staying as they are. What stands before one does not touch
what stands after it. -/
def lowercaseWide (text : WideText) : WideText :=
  let flush := fun (pendingReversed : List Char) =>
    WideText.ofChars (lowercase pendingReversed.reverse)
  let (done, pending) := text.foldl
    (fun (done, pending) point =>
      match point with
      | .scalar character => (done, character :: pending)
      | .surrogate offset => (done ++ flush pending ++ [.surrogate offset], []))
    (([] : WideText), ([] : List Char))
  done ++ flush pending

/-- Splits off a sign. There must be a character to look at. -/
def splitSign : WideText → Except Fault (Bool × WideText)
  | [] => .error .emptyNumber
  | first :: rest =>
      if first = .scalar '-' then .ok (true, rest)
      else if first = .scalar '+' then .ok (false, rest)
      else .ok (false, first :: rest)

/-- The fields between colons. -/
def colonFields : WideText → List WideText
  | [] => [[]]
  | point :: rest =>
      if point = .scalar ':' then [] :: colonFields rest
      else match colonFields rest with
        | [] => [[point]]
        | field :: fields => (point :: field) :: fields

def readIntegerIn (base : Nat) (text : WideText) : Except Fault Int :=
  match WideText.toChars? text with
  | none => .error (.integer (.malformed base text))
  | some characters => (readInteger base characters).mapError .integer

/-- The value of fields in base sixty, the most significant first. -/
def integerOfFields (fields : List Int) : Int :=
  fields.foldl (fun total field => total * 60 + field) 0

/-- The integer of a text without low lines and sign. A leading zero announces base two, base
sixteen or base eight. -/
def magnitudeOf (text : WideText) : Except Fault Int :=
  match text with
  | [] => .error .emptyNumber
  | [.scalar '0'] => .ok 0
  | .scalar '0' :: .scalar 'b' :: digits => readIntegerIn 2 digits
  | .scalar '0' :: .scalar 'x' :: digits => readIntegerIn 16 digits
  | .scalar '0' :: rest => readIntegerIn 8 (.scalar '0' :: rest)
  | text =>
      match colonFields text with
      | [single] => readIntegerIn 10 single
      | fields => (fields.mapM (readIntegerIn 10)).map integerOfFields

def integerOf (text : WideText) : Except Fault Int := do
  let (negative, unsigned) ← splitSign (dropLines text)
  let magnitude ← magnitudeOf unsigned
  .ok (if negative then -magnitude else magnitude)

/-- A floating-point number. -/
def readFloat (text : WideText) : Except Fault Binary64 :=
  match (WideText.toChars? text).bind readBinary64? with
  | some value => .ok value
  | none => .error (.notNumber text)

/-- Adds up fields in base sixty, the least significant first, each rounded on its own. -/
def sumOfFields (total : Binary64) (place : Int) : List Binary64 → Except Fault Binary64
  | [] => .ok total
  | field :: fields =>
      let factor := Binary64.ofInt place
      if factor.isInfinite then .error .placeTooGreat
      else sumOfFields (total.add (field.multiply factor)) (place * 60) fields

def floatOf (text : WideText) : Except Fault Binary64 := do
  let (negative, unsigned) ← splitSign (lowercaseWide (dropLines text))
  let signed := fun (value : Binary64) => if negative then value.negate else value
  if WideText.is unsigned ".inf" then .ok (signed (.infinite false))
  else if WideText.is unsigned ".nan" then .ok .nan
  else match colonFields unsigned with
    | [single] => (readFloat single).map signed
    | fields => do
        let values ← fields.mapM readFloat
        (sumOfFields (Binary64.zeroOf false) 1 values.reverse).map signed

/-- The words for truth values in lower case. -/
def truthWords : List (String × Bool) :=
  [("yes", true), ("no", false), ("true", true), ("false", false), ("on", true), ("off", false)]

def truthOf (text : WideText) : Except Fault Bool :=
  let lower := lowercaseWide text
  match truthWords.find? fun entry => WideText.is lower entry.1 with
  | some (_, value) => .ok value
  | none => .error (.notTruthValue lower)

/-- The value of a character in base sixty-four. -/
def sextet? (character : Char) : Option Nat :=
  if 'A' ≤ character && character ≤ 'Z' then some (character.toNat - 65)
  else if 'a' ≤ character && character ≤ 'z' then some (character.toNat - 71)
  else if '0' ≤ character && character ≤ '9' then some (character.toNat + 4)
  else if character = '+' then some 62
  else if character = '/' then some 63
  else none

/-- Reads characters in base sixty-four, others left out. `place` counts the characters of the
current group of four, `carried` holds the bits that have filled no byte yet, and `padding`
counts the equals signs since the last character. Enough of them end the text; without them a
group must be whole. -/
def bytesFrom (place carried padding : Nat) : List Char → Except Fault (List UInt8)
  | [] => if place = 0 then .ok [] else .error .malformed
  | character :: rest =>
      if character = '=' then
        if 2 ≤ place then
          if 4 ≤ place + padding + 1 then .ok []
          else bytesFrom place carried (padding + 1) rest
        else bytesFrom place carried padding rest
      else match sextet? character with
        | none => bytesFrom place carried padding rest
        | some value =>
            match place with
            | 0 => bytesFrom 1 value 0 rest
            | 1 =>
                (bytesFrom 2 (value % 16) 0 rest).map
                  ((carried * 4 + value / 16).toUInt8 :: ·)
            | 2 =>
                (bytesFrom 3 (value % 4) 0 rest).map
                  ((carried * 16 + value / 4).toUInt8 :: ·)
            | _ => (bytesFrom 0 0 0 rest).map ((carried * 64 + value).toUInt8 :: ·)

def bytesOf (text : WideText) : Except Fault (List UInt8) :=
  match WideText.toChars? text with
  | none => .error .malformed
  | some characters =>
      if characters.all fun character => character.toNat < 0x80 then bytesFrom 0 0 0 characters
      else .error .malformed

/-- Checks that a scalar names a point in time. -/
def checkTimestamp (text : WideText) : Except Fault Unit :=
  match (WideText.toChars? text).bind fun characters =>
      TimestampParts.ofText? (formOf characters) with
  | none => .error (.timestamp .malformed)
  | some parts => parts.check.mapError .timestamp

end ReadmePress.Yaml
