import ReadmePress.Json.Plain
import ReadmePress.Text.Utf8
import ReadmePress.Tools.Issue

/-!
The report of issues as a text: how many there are, and for each one its place, what is wrong,
the input in short and where to read more.
-/

namespace ReadmePress

open ReadmePress.Text

namespace IssueReport

/-- The greatest number of bytes of an input that is shown whole. -/
def wholeLimit : Nat := 50

/-- The first characters that fit into some number of bytes. -/
def takeBytes : (room : Nat) → List Char → List Char
  | _, [] => []
  | room, character :: rest =>
      if character.utf8Size ≤ room then
        character :: takeBytes (room - character.utf8Size) rest
      else []

/-- A long text is cut to its start and its end, with dots between. -/
def excerpt (text : List Char) : List Char :=
  if (encodeUtf8 text).length ≤ wholeLimit then text
  else
    takeBytes 25 text ++ ['.', '.', '.'] ++ (takeBytes 24 text.reverse).reverse

/-- The kind of an input. -/
def kindName : Json → String
  | .null => "NoneType"
  | .bool _ => "bool"
  | .integer _ => "int"
  | .float _ => "float"
  | .string _ => "str"
  | .array _ => "list"
  | .object _ => "dict"

/-- A step of a place. -/
def stepText : IssueStep → String
  | .field name => name
  | .index place => toString place

/-- Where more is said about a kind of issue. -/
def reference (kind : IssueKind) : String :=
  "https://errors.pydantic.dev/2.14/v/" ++ kind.name

def lines (issue : Issue) : List String :=
  [".".intercalate (issue.location.map stepText),
    "  " ++ issue.kind.message ++ " [type=" ++ issue.kind.name ++ ", input_value="
      ++ String.ofList (excerpt (Json.nested issue.input)) ++ ", input_type="
      ++ kindName issue.input ++ "]",
    "    For further information visit " ++ reference issue.kind]

def text (title : String) (issues : List Issue) : String :=
  let count := toString issues.length ++ " validation error"
    ++ (if issues.length = 1 then "" else "s") ++ " for " ++ title
  "\n".intercalate (count :: issues.flatMap lines)

end IssueReport

end ReadmePress
