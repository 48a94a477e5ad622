import ReadmePress.Tools.Arguments

/-!
Arguments from any value. An object gives its members; a sequence of pairs gives them too, a
pair being a list of two, a text of two characters or an object of two members, whose names are
taken. Other values give none.
-/

namespace ReadmePress

open ReadmePress.Text

/-- Why a value gives no members. -/
inductive MembersFault where
  | notIterable (kind : String)
  | notSequence (place : Nat)
  | notPair (place length : Nat)
  /-- A collection stands for the name of a member. -/
  | unhashable (kind : String)
  deriving DecidableEq, Repr

namespace MembersFault

def message : MembersFault → String
  | .notIterable kind => "'" ++ kind ++ "' object is not iterable"
  | .notSequence place =>
      "cannot convert dictionary update sequence element #" ++ toString place
        ++ " to a sequence"
  | .notPair place length =>
      "dictionary update sequence element #" ++ toString place ++ " has length "
        ++ toString length ++ "; 2 is required"
  | .unhashable kind => "unhashable type: '" ++ kind ++ "'"

end MembersFault

namespace Members

/-- What a kind of value is called in reports. -/
def kindName : Json → String
  | .null => "NoneType"
  | .bool _ => "bool"
  | .integer _ => "int"
  | .float _ => "float"
  | .string _ => "str"
  | .array _ => "list"
  | .object _ => "dict"

/-- The values in a value that may stand for a pair. -/
def parts? : Json → Option (List Json)
  | .string text => some (text.map fun point => .string [point])
  | .array items => some items
  | .object members => some (members.map fun member => .string member.1)
  | _ => none

/-- Puts a pair into members. A name that is no text is a name of no argument. -/
def putPair (members : Members) (name value : Json) : Except MembersFault Members :=
  match name with
  | .string name => .ok (OrderedMap.put members name value)
  | .array _ => .error (.unhashable (kindName name))
  | .object _ => .error (.unhashable (kindName name))
  | _ => .ok members

/-- Puts pairs from a place on into members. -/
def putPairs (members : Members) (place : Nat) : List Json → Except MembersFault Members
  | [] => .ok members
  | item :: rest =>
      match parts? item with
      | none => .error (.notSequence place)
      | some [name, value] => do putPairs (← putPair members name value) (place + 1) rest
      | some parts => .error (.notPair place parts.length)

/-- The members that a value gives. -/
def ofJson : Json → Except MembersFault Members
  | .object members => .ok members
  | value =>
      match parts? value with
      | some items => putPairs [] 0 items
      | none => .error (.notIterable (kindName value))

end Members

end ReadmePress
