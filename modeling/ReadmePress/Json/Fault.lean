import ReadmePress.Json.Parser

/-!
Reports of faults in JSON texts: what was expected, and the line, the column and the index of
the character where it was missing.
-/

namespace ReadmePress.Json

open ReadmePress.Number

/-- What a cause is called in reports. -/
def SyntaxCause.message : SyntaxCause → String
  | .valueExpected => "Expecting value"
  | .nameExpected => "Expecting property name enclosed in double quotes"
  | .colonExpected => "Expecting ':' delimiter"
  | .commaExpected => "Expecting ',' delimiter"
  | .unclosedText => "Unterminated string starting at"
  | .badEscape => "Invalid \\escape"
  | .badUnicodeEscape => "Invalid \\uXXXX escape"
  | .controlCharacter => "Invalid control character at"
  | .trailingData => "Extra data"
  | .byteOrderMark => "Unexpected UTF-8 BOM (decode using utf-8-sig)"

def faultIndex (text : List Char) (remaining : Nat) : Nat := text.length - remaining

def syntaxReport (text : List Char) (cause : SyntaxCause) (remaining : Nat) : String :=
  let index := faultIndex text remaining
  let before := text.take index
  let line := before.count '\n' + 1
  let column := (before.reverse.takeWhile (· != '\n')).length + 1
  cause.message ++ ": line " ++ toString line ++ " column " ++ toString column ++ " (char "
    ++ toString index ++ ")"

end ReadmePress.Json
