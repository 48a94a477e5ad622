import ReadmePress.Text.Digit
import ReadmePress.Text.Lines

/-!
The words of a command line and what each of them is, told from its spelling and the names of
the options alone. A long name may be cut short as long as only one name starts that way. A
negative number is no option, nor is a word with a space in it that is not the start of one.
-/

namespace ReadmePress

open ReadmePress.Text

inductive WordRole where
  | operand
  /-- The mark after which every word is an operand. -/
  | endMark
  /-- An option by its full name, with what else the word holds: a value, or switches. -/
  | option (name : String) (written : Option String)
  | unknown
  deriving DecidableEq, Repr

structure Word where
  text : String
  role : WordRole
  deriving DecidableEq, Repr

/-- A word that cuts several names short. -/
structure Ambiguity where
  word : String
  names : List String
  deriving DecidableEq, Repr

namespace Word

/-- What comes before and after the first equals sign. -/
def splitAtEquals (word : List Char) : List Char × Option (List Char) :=
  match word.dropWhile (· != '=') with
  | [] => (word, none)
  | _ :: after => (word.takeWhile (· != '='), some after)

/-- The name that a word may stand for, with what else it holds. -/
def candidate? (word : List Char) (name : String) : Option (String × Option String) :=
  if "--".toList.isPrefixOf word then
    let (start, written) := splitAtEquals word
    if start.isPrefixOf name.toList then some (name, written.map String.ofList) else none
  else if name.toList = word.take 2 then some (name, some (String.ofList (word.drop 2)))
  else if word.isPrefixOf name.toList then some (name, none)
  else none

/-- Whether characters are digits, at least one. -/
def areDigits (text : List Char) : Bool :=
  !text.isEmpty && text.all fun character => (digitValue? character).isSome

/-- Whether a word is spelled like a negative number. A line break after it does not matter. -/
def isNegativeNumber (word : List Char) : Bool :=
  match if word.getLast? = some '\n' then word.dropLast else word with
  | '-' :: number =>
      areDigits number
        || (match number.dropWhile (· != '.') with
          | '.' :: fraction =>
              let whole := number.takeWhile (· != '.')
              (whole.isEmpty || areDigits whole) && areDigits fraction
          | _ => false)
  | _ => false

/-- The role of a word before the end mark. -/
def roleOf (names : List String) (word : String) : Except Ambiguity WordRole :=
  let characters := word.toList
  let (start, after) := splitAtEquals characters
  if characters.head? != some '-' then .ok .operand
  else if names.contains word then .ok (.option word none)
  else if characters.length = 1 then .ok .operand
  else if after.isSome && names.contains (String.ofList start) then
    .ok (.option (String.ofList start) (after.map String.ofList))
  else match names.filterMap (candidate? characters) with
    | [(name, written)] => .ok (.option name written)
    | [] =>
        if isNegativeNumber characters || characters.contains ' ' then .ok .operand
        else .ok .unknown
    | several => .error { word := word, names := several.map Prod.fst }

/-- The words of a line with their roles. -/
def ofLine (names : List String) : List String → Except Ambiguity (List Word)
  | [] => .ok []
  | text :: rest =>
      if text = "--" then
        .ok ({ text := text, role := .endMark }
          :: rest.map fun operand => { text := operand, role := .operand })
      else do
        let role ← roleOf names text
        let words ← ofLine names rest
        .ok ({ text := text, role := role } :: words)

end Word

end ReadmePress
