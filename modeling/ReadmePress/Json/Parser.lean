import ReadmePress.Json.Value
import ReadmePress.Number.Decimal

/-!
Reading JSON. The grammar is that of the standard with three more numbers, `NaN`, `Infinity`
and `-Infinity`. A fault records how many characters were left where it was found, so that a
place in the text can be told from it.

Nesting has a limit, and an integer of too many digits is refused even though it is JSON.
-/

namespace ReadmePress.Json

open ReadmePress.Number ReadmePress.Text

/-- What was wrong with the text. -/
inductive SyntaxCause where
  | valueExpected
  | nameExpected
  | colonExpected
  | commaExpected
  | unclosedText
  | badEscape
  | badUnicodeEscape
  | controlCharacter
  | trailingData
  | byteOrderMark
  deriving DecidableEq, Repr

/-- Why a text is not read as a value. -/
inductive Fault where
  /-- The text is no JSON; `remaining` characters were left at the fault. -/
  | malformed (cause : SyntaxCause) (remaining : Nat)
  | integer (fault : IntegerFault)
  | tooDeep
  deriving DecidableEq, Repr

/-- How deep arrays and objects may be nested. A reader on a bounded stack stops somewhere between
900 and 1000 levels, depending on the calls that are open when it begins. The limit is a number of
that range, so only texts nested 900 to 1000 levels deep may be judged otherwise. -/
def nestingLimit : Nat := 960

/-- A reader takes a value off the front of a text. -/
abbrev Reader (Value : Type) := List Char → Except Fault (Value × List Char)

/-- Fails where `rest` is what is left. -/
def failAt {Value : Type} (cause : SyntaxCause) (rest : List Char) : Except Fault Value :=
  .error (.malformed cause rest.length)

/-- Blanks that may stand between tokens. -/
def isSpace (character : Char) : Bool :=
  character = ' ' || character = '\t' || character = '\n' || character = '\r'

/-- Drops blanks. -/
def skipSpace (text : List Char) : List Char := text.dropWhile isSpace

/-- The value of a hexadecimal digit in either case. -/
def hexDigitValue? (character : Char) : Option Nat :=
  if '0' ≤ character && character ≤ '9' then some (character.toNat - 48)
  else if 'A' ≤ character && character ≤ 'F' then some (character.toNat - 55)
  else if 'a' ≤ character && character ≤ 'f' then some (character.toNat - 87)
  else none

/-- The number of four hexadecimal digits. -/
def fourDigits? (first second third fourth : Char) : Option Nat := do
  let high ← hexDigitValue? first
  let upper ← hexDigitValue? second
  let lower ← hexDigitValue? third
  let low ← hexDigitValue? fourth
  some (((high * 16 + upper) * 16 + lower) * 16 + low)

/-- The character that a one-letter escape stands for. -/
def simpleEscape? : Char → Option Char
  | '"' => some '"'
  | '\\' => some '\\'
  | '/' => some '/'
  | 'b' => some '\x08'
  | 'f' => some '\x0c'
  | 'n' => some '\n'
  | 'r' => some '\r'
  | 't' => some '\t'
  | _ => none

inductive TextPiece where
  | closed
  | point (value : CodePoint)

/-- The code point of a number that four hexadecimal digits can write. -/
def codeUnit (value : Nat) : CodePoint := (CodePoint.ofNat? value).getD (.scalar '\x00')

/-- The character of a surrogate pair. -/
def joinSurrogates (high low : Nat) : CodePoint :=
  .scalar (Char.ofNat (0x10000 + (high - 0xd800) * 0x400 + (low - 0xdc00)))

/-- Reads a second escape that completes a surrogate pair; a high surrogate that none follows
stands alone. -/
def pairOrAlone (high : Nat) (rest : List Char) : Except Fault (CodePoint × List Char) :=
  match rest with
  | '\\' :: 'u' :: first :: second :: third :: fourth :: more =>
      if more.isEmpty then .ok (codeUnit high, rest)
      else match fourDigits? first second third fourth with
        | none => failAt .badUnicodeEscape ('u' :: first :: second :: third :: fourth :: more)
        | some low =>
            if 0xdc00 ≤ low && low < 0xe000 then .ok (joinSurrogates high low, more)
            else .ok (codeUnit high, rest)
  | _ => .ok (codeUnit high, rest)

/-- Reads the escape of a code point by number, after its `u`. The character after the digits
must exist, be it only the closing mark. -/
def readUnicodeEscape (rest : List Char) : Except Fault (CodePoint × List Char) :=
  match rest with
  | first :: second :: third :: fourth :: next :: more =>
      match fourDigits? first second third fourth with
      | none => failAt .badUnicodeEscape ('u' :: rest)
      | some value =>
          if 0xd800 ≤ value && value < 0xdc00 then pairOrAlone value (next :: more)
          else .ok (codeUnit value, next :: more)
  | _ => failAt .badUnicodeEscape ('u' :: rest)

/-- Reads one piece of a text that began with `opened` characters left. -/
def readPiece (opened : Nat) (rest : List Char) : Except Fault (TextPiece × List Char) :=
  match rest with
  | [] => .error (.malformed .unclosedText opened)
  | '"' :: rest => .ok (.closed, rest)
  | ['\\'] => .error (.malformed .unclosedText opened)
  | '\\' :: 'u' :: rest => do
      let (point, rest) ← readUnicodeEscape rest
      .ok (.point point, rest)
  | '\\' :: letter :: more =>
      match simpleEscape? letter with
      | some character => .ok (.point (.scalar character), more)
      | none => failAt .badEscape ('\\' :: letter :: more)
  | character :: more =>
      if character.toNat < 0x20 then failAt .controlCharacter (character :: more)
      else .ok (.point (.scalar character), more)

/-- Reads pieces up to the closing mark. No text has more pieces than characters. -/
def readPieces (opened : Nat) : (fuel : Nat) → Reader WideText
  | 0, _ => .error (.malformed .unclosedText opened)
  | fuel + 1, rest => do
      match ← readPiece opened rest with
      | (.closed, rest) => .ok ([], rest)
      | (.point value, rest) =>
          let (more, rest) ← readPieces opened fuel rest
          .ok (value :: more, rest)

/-- Reads a text after its opening mark. -/
def readText (rest : List Char) : Except Fault (WideText × List Char) :=
  readPieces (rest.length + 1) (rest.length + 1) rest

/-- Whether a character is an ASCII digit. -/
def isDigit (character : Char) : Bool := '0' ≤ character && character ≤ '9'

/-- Splits off leading digits. -/
def takeDigits (text : List Char) : List Char × List Char :=
  (text.takeWhile isDigit, text.dropWhile isDigit)

/-- Splits off a fraction: a point that a digit follows. -/
def takeFraction : List Char → List Char × List Char
  | '.' :: digit :: rest =>
      if isDigit digit then
        let (digits, rest) := takeDigits (digit :: rest)
        ('.' :: digits, rest)
      else ([], '.' :: digit :: rest)
  | text => ([], text)

/-- Splits off an exponent that has a digit. -/
def takeExponent : List Char → List Char × List Char
  | mark :: rest =>
      if mark = 'e' || mark = 'E' then
        let (sign, unsigned) :=
          match rest with
          | '+' :: more => (['+'], more)
          | '-' :: more => (['-'], more)
          | more => ([], more)
        match takeDigits unsigned with
        | ([], _) => ([], mark :: rest)
        | (digits, more) => (mark :: sign ++ digits, more)
      else ([], mark :: rest)
  | [] => ([], [])

/-- Splits off the whole digits of a number: one zero, or digits without a leading zero. -/
def takeWhole : List Char → List Char × List Char
  | '0' :: rest => (['0'], rest)
  | text => takeDigits text

/-- Reads a number. A fraction or an exponent makes it a floating-point number. -/
def readNumber (text : List Char) : Except Fault (Json × List Char) :=
  let (sign, unsigned) :=
    match text with
    | '-' :: rest => (['-'], rest)
    | rest => ([], rest)
  match takeWhole unsigned with
  | ([], _) => failAt .valueExpected text
  | (whole, afterWhole) =>
      let (fraction, afterFraction) := takeFraction afterWhole
      let (exponent, rest) := takeExponent afterFraction
      if fraction.isEmpty && exponent.isEmpty then
        match readDecimal (sign ++ whole) with
        | .ok value => .ok (.integer value, rest)
        | .error fault => .error (.integer fault)
      else
        .ok (.float ((readBinary64? (sign ++ whole ++ fraction ++ exponent)).getD .nan), rest)

/-- Drops a word off the front of a text. -/
def dropWord? (word : String) (text : List Char) : Option (List Char) :=
  if word.toList.isPrefixOf text then some (text.drop word.length) else none

def namedValues : List (String × Json) :=
  [("null", .null), ("true", .bool true), ("false", .bool false), ("NaN", .float .nan),
    ("Infinity", .float (.infinite false)), ("-Infinity", .float (.infinite true))]

/-- Reads a named value or a number. -/
def readScalar (text : List Char) : Except Fault (Json × List Char) :=
  match namedValues.findSome? fun (name, value) => (dropWord? name text).map (value, ·) with
  | some found => .ok found
  | none => readNumber text

/-- Reads the items of an array, the first of which is already due. -/
def readItems (readValue : Reader Json) : (fuel : Nat) → Reader (List Json)
  | 0, rest => failAt .valueExpected rest
  | fuel + 1, rest => do
      let (item, rest) ← readValue rest
      match skipSpace rest with
      | ']' :: rest => .ok ([item], rest)
      | ',' :: rest =>
          let (items, rest) ← readItems readValue fuel (skipSpace rest)
          .ok (item :: items, rest)
      | rest => failAt .commaExpected rest

/-- Reads a member name and the colon after it. -/
def readName : Reader WideText
  | '"' :: rest => do
      let (name, rest) ← readText rest
      match skipSpace rest with
      | ':' :: rest => .ok (name, skipSpace rest)
      | rest => failAt .colonExpected rest
  | rest => failAt .nameExpected rest

/-- Reads the members of an object, the first of which is already due. -/
def readMembers (readValue : Reader Json) : (fuel : Nat) → Reader (List (WideText × Json))
  | 0, rest => failAt .nameExpected rest
  | fuel + 1, rest => do
      let (name, rest) ← readName rest
      let (value, rest) ← readValue rest
      match skipSpace rest with
      | '}' :: rest => .ok ([(name, value)], rest)
      | ',' :: rest =>
          let (members, rest) ← readMembers readValue fuel (skipSpace rest)
          .ok ((name, value) :: members, rest)
      | rest => failAt .commaExpected rest

/-- Reads a value with at most `depth` levels of nesting. -/
def readValue : (depth : Nat) → Reader Json
  | 0, text =>
      match text with
      | '[' :: _ => .error .tooDeep
      | '{' :: _ => .error .tooDeep
      | '"' :: rest => (readText rest).map fun (value, rest) => (.string value, rest)
      | text => readScalar text
  | depth + 1, text =>
      match text with
      | '[' :: rest =>
          match skipSpace rest with
          | ']' :: rest => .ok (.array [], rest)
          | rest =>
              (readItems (readValue depth) (rest.length + 1) rest).map fun (items, rest) =>
                (.array items, rest)
      | '{' :: rest =>
          match skipSpace rest with
          | '}' :: rest => .ok (.object [], rest)
          | rest =>
              (readMembers (readValue depth) (rest.length + 1) rest).map fun (members, rest) =>
                (.object (OrderedMap.ofEntries members), rest)
      | '"' :: rest => (readText rest).map fun (value, rest) => (.string value, rest)
      | text => readScalar text

/-- Reads a text that is one value and blanks around it. -/
def parseWhole (text : List Char) : Except Fault Json := do
  let (value, rest) ← readValue nestingLimit (skipSpace text)
  match skipSpace rest with
  | [] => .ok value
  | rest => failAt .trailingData rest

/-- Reads a text that is one value and blanks around it, and has no byte order mark. -/
def parse (text : List Char) : Except Fault Json :=
  if text.head? = some '\ufeff' then failAt .byteOrderMark text else parseWhole text

end ReadmePress.Json
