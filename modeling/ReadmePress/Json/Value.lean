import ReadmePress.Number.Binary64
import ReadmePress.OrderedMap
import ReadmePress.Text.CodePoint

/-!
JSON values. Integers are exact and apart from floating-point numbers, texts may hold lone
surrogates, and the members of an object keep the order of their keys.
-/

namespace ReadmePress

open ReadmePress.Number ReadmePress.Text

inductive Json where
  | null
  | bool (value : Bool)
  | integer (value : Int)
  | float (value : Binary64)
  | string (value : WideText)
  | array (items : List Json)
  | object (members : List (WideText × Json))
  deriving Repr

namespace Json

/-- A text without surrogates. -/
def ofString (value : String) : Json := .string (WideText.ofString value)

/-- The members of an object. -/
def members? : Json → Option (List (WideText × Json))
  | .object members => some members
  | _ => none

/-- The value of a member. -/
def member? (members : List (WideText × Json)) (name : String) : Option Json :=
  OrderedMap.find? members (WideText.ofString name)

/-- An object whose member names hold no surrogates. -/
def ofMembers (members : List (String × Json)) : Json :=
  .object (members.map fun (name, value) => (WideText.ofString name, value))

end Json

end ReadmePress
