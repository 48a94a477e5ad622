import ReadmePress.Json.Value
import ReadmePress.Number.Integer
import ReadmePress.Number.Shortest
import ReadmePress.Text.Lines
import ReadmePress.Text.Quoted

/-!
Writing JSON: two blanks of indentation for each level, one item or member a line, and every
character as itself that JSON does not require to be escaped.
-/

namespace ReadmePress.Json

open ReadmePress.Number ReadmePress.Text

def escaped : CodePoint → WideText
  | .surrogate offset => [.surrogate offset]
  | .scalar character =>
      WideText.ofChars <|
        if character = '"' then ['\\', '"']
        else if character = '\\' then ['\\', '\\']
        else if character = '\n' then ['\\', 'n']
        else if character = '\r' then ['\\', 'r']
        else if character = '\t' then ['\\', 't']
        else if character = '\x08' then ['\\', 'b']
        else if character = '\x0c' then ['\\', 'f']
        else if character.toNat < 0x20 then '\\' :: 'u' :: hexDigits 4 character.toNat
        else [character]

/-- A text between its marks. -/
def writeText (text : WideText) : WideText :=
  .scalar '"' :: (text.flatMap escaped ++ [.scalar '"'])

/-- A line end and the indentation of a level. -/
def lineAt (level : Nat) : WideText :=
  WideText.ofChars ('\n' :: List.replicate (2 * level) ' ')

/-- A number in JSON. -/
def writeFloat : Binary64 → List Char
  | .nan => "NaN".toList
  | .infinite negative => (if negative then "-Infinity" else "Infinity").toList
  | value => value.text

mutual

/-- A value whose first line is already indented. -/
def write (level : Nat) : Json → WideText
  | .null => WideText.ofString "null"
  | .bool value => WideText.ofString (if value then "true" else "false")
  | .integer value => WideText.ofChars (integerDigits value)
  | .float value => WideText.ofChars (writeFloat value)
  | .string value => writeText value
  | .array [] => WideText.ofString "[]"
  | .array (item :: items) =>
      .scalar '[' :: (lineAt (level + 1) ++ write (level + 1) item
        ++ writeItems (level + 1) items ++ lineAt level ++ [.scalar ']'])
  | .object [] => WideText.ofString "\x7b\x7d"
  | .object ((name, value) :: members) =>
      .scalar '{' :: (lineAt (level + 1) ++ writeText name ++ WideText.ofString ": "
        ++ write (level + 1) value ++ writeMembers (level + 1) members ++ lineAt level
        ++ [.scalar '}'])

/-- The items after the first. -/
def writeItems (level : Nat) : List Json → WideText
  | [] => []
  | item :: items =>
      .scalar ',' :: (lineAt level ++ write level item ++ writeItems level items)

/-- The members after the first. -/
def writeMembers (level : Nat) : List (WideText × Json) → WideText
  | [] => []
  | (name, value) :: members =>
      .scalar ',' :: (lineAt level ++ writeText name ++ WideText.ofString ": "
        ++ write level value ++ writeMembers level members)

end

def render (value : Json) : WideText := write 0 value

end ReadmePress.Json
