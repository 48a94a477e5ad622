import ReadmePress.Json.Value
import ReadmePress.Number.Integer
import ReadmePress.Number.Shortest
import ReadmePress.Text.Lines
import ReadmePress.Text.Quoted

/-!
The plain text of a value, for fields that hold text but were given something else. A text is
itself; inside arrays and objects texts are quoted. Truth values and null are spelled with
capitals.
-/

namespace ReadmePress.Json

open ReadmePress.Number ReadmePress.Text

mutual

/-- A value inside another. -/
def nested : Json → List Char
  | .null => "None".toList
  | .bool value => (if value then "True" else "False").toList
  | .integer value => integerDigits value
  | .float value => value.text
  | .string value => quotedWide value
  | .array items => '[' :: (join [',', ' '] (nestedItems items) ++ [']'])
  | .object members => '{' :: (join [',', ' '] (nestedMembers members) ++ ['}'])

def nestedItems : List Json → List (List Char)
  | [] => []
  | item :: items => nested item :: nestedItems items

def nestedMembers : List (WideText × Json) → List (List Char)
  | [] => []
  | (name, value) :: members =>
      (quotedWide name ++ ':' :: ' ' :: nested value) :: nestedMembers members

end

def plain : Json → WideText
  | .string value => value
  | value => WideText.ofChars (nested value)

end ReadmePress.Json
