import ReadmePress.Text.CodePoint
import ReadmePress.Text.Printable

/-!
Quoted text for messages and for nested values: printable characters stand for themselves,
all others are escaped by number. A text that holds apostrophes but no quotation mark is put in
quotation marks, every other text in apostrophes.
-/

namespace ReadmePress.Text

/-- The digit of a number below sixteen, in lower case. -/
def hexDigit (value : Nat) : Char :=
  if value < 10 then Char.ofNat (48 + value) else Char.ofNat (87 + value)

/-- Exactly `width` hexadecimal digits, the least significant last. -/
def hexDigits : (width : Nat) → Nat → List Char
  | 0, _ => []
  | width + 1, value => hexDigits width (value / 16) ++ [hexDigit (value % 16)]

/-- The shortest numeric escape that has room for the code point. -/
def numericEscape (code : Nat) : List Char :=
  if code < 0x100 then '\\' :: 'x' :: hexDigits 2 code
  else if code < 0x10000 then '\\' :: 'u' :: hexDigits 4 code
  else '\\' :: 'U' :: hexDigits 8 code

def quotedCodePoint (mark : Char) : CodePoint → List Char
  | .surrogate offset => numericEscape (CodePoint.surrogate offset).toNat
  | .scalar character =>
      if character = mark || character = '\\' then ['\\', character]
      else if character = '\n' then ['\\', 'n']
      else if character = '\r' then ['\\', 'r']
      else if character = '\t' then ['\\', 't']
      else if isPrintable character then [character]
      else numericEscape character.toNat

/-- The quotes that a text calls for. -/
def quoteMark (text : WideText) : Char :=
  if text.contains (.scalar '\'') && !text.contains (.scalar '"') then '"' else '\''

def quotedWide (text : WideText) : List Char :=
  let mark := quoteMark text
  mark :: (text.flatMap (quotedCodePoint mark) ++ [mark])

def quoted (text : String) : String := String.ofList (quotedWide (WideText.ofString text))

end ReadmePress.Text
