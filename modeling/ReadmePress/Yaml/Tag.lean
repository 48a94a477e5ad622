import ReadmePress.Text.CodePoint

/-!
Tags: what kind of value a node stands for. A plain scalar without a tag takes the first kind
whose form it has; so does a scalar tagged with a lone exclamation mark.
-/

namespace ReadmePress.Yaml

open ReadmePress.Text

inductive Tag where
  | null
  | bool
  | integer
  | float
  | binary
  | timestamp
  | orderedMap
  | pairs
  | set
  | text
  | sequence
  | mapping
  /-- A key whose value is merged into the mapping. -/
  | merge
  /-- A key whose value stands for the mapping where a scalar is asked for. -/
  | default
  /-- Any other tag. -/
  | foreign
  deriving DecidableEq, Repr

namespace Tag

/-- What the tags of the language start with. -/
def namespaceUri : String := "tag:yaml.org,2002:"

/-- The names of the tags of the language. -/
def names : List (String × Tag) :=
  [("null", .null), ("bool", .bool), ("int", .integer), ("float", .float),
    ("binary", .binary), ("timestamp", .timestamp), ("omap", .orderedMap), ("pairs", .pairs),
    ("set", .set), ("str", .text), ("seq", .sequence), ("map", .mapping), ("merge", .merge),
    ("value", .default)]

/-- The tag that is written in full. -/
def ofUri (uri : String) : Tag :=
  ((names.find? fun entry => namespaceUri ++ entry.1 = uri).map (·.2)).getD .foreign

/-! Forms of scalars -/

def isSign (character : Char) : Bool := character == '+' || character == '-'

/-- Drops a sign, if there is one. -/
def unsigned : List Char → List Char
  | [] => []
  | character :: rest => if isSign character then rest else character :: rest

def isOctal (character : Char) : Bool := '0' ≤ character && character ≤ '7'

def isHexadecimal (character : Char) : Bool :=
  character.isDigit || ('a' ≤ character && character ≤ 'f')
    || ('A' ≤ character && character ≤ 'F')

/-- Characters of a kind, and low lines. -/
def orLine (kind : Char → Bool) (character : Char) : Bool := kind character || character == '_'

def areSome (kind : Char → Bool) (text : List Char) : Bool := !text.isEmpty && text.all kind

/-- A digit, then digits and low lines. -/
def isDigitRun : List Char → Bool
  | [] => false
  | first :: rest => first.isDigit && rest.all (orLine Char.isDigit)

/-- A colon and a number below sixty, one or more times. -/
def areSixtieths : List Char → Bool
  | ':' :: tens :: ones :: rest =>
      if ones = ':' then tens.isDigit && areSixtieths (ones :: rest)
      else '0' ≤ tens && tens ≤ '5' && ones.isDigit && (rest.isEmpty || areSixtieths rest)
  | [':', digit] => digit.isDigit
  | _ => false

def isTruthWord (text : List Char) : Bool :=
  ["yes", "Yes", "YES", "no", "No", "NO", "true", "True", "TRUE", "false", "False", "FALSE",
    "on", "On", "ON", "off", "Off", "OFF"].contains (String.ofList text)

def isNullWord (text : List Char) : Bool :=
  ["~", "null", "Null", "NULL"].contains (String.ofList text)

/-- Integers in base two, eight, ten, sixteen and sixty. -/
def isInteger (text : List Char) : Bool :=
  match unsigned text with
  | [] => false
  | '0' :: rest =>
      rest.isEmpty || areSome (orLine isOctal) rest
        || (match rest with
          | 'b' :: digits => areSome (orLine fun digit => digit == '0' || digit == '1') digits
          | 'x' :: digits => areSome (orLine isHexadecimal) digits
          | _ => false)
  | first :: rest =>
      let sixtieths := (first :: rest).dropWhile (orLine Char.isDigit)
      first.isDigit && (sixtieths.isEmpty || areSixtieths sixtieths)

/-- An exponent with its sign, or nothing. -/
def isExponent : List Char → Bool
  | [] => true
  | mark :: sign :: digits =>
      (mark == 'e' || mark == 'E') && isSign sign && areSome Char.isDigit digits
  | _ => false

/-- Floating-point numbers: each has a point, and an exponent has a sign. -/
def isFloat (text : List Char) : Bool :=
  let number := unsigned text
  let whole := number.takeWhile (orLine Char.isDigit)
  let afterWhole := number.dropWhile (orLine Char.isDigit)
  let afterSixtieths := afterWhole.dropWhile fun character =>
    character.isDigit || character == ':'
  let sixtieths := afterWhole.takeWhile fun character => character.isDigit || character == ':'
  if isDigitRun whole then
    match afterSixtieths with
    | '.' :: fraction =>
        let rest := fraction.dropWhile (orLine Char.isDigit)
        if sixtieths.isEmpty then isExponent rest else areSixtieths sixtieths && rest.isEmpty
    | _ => false
  else
    let named := String.ofList number
    [".inf", ".Inf", ".INF"].contains named
      || [".nan", ".NaN", ".NAN"].contains (String.ofList text)
      || (match text with
        | '.' :: first :: rest =>
            first.isDigit && isExponent (rest.dropWhile (orLine Char.isDigit))
        | _ => false)

end Tag

end ReadmePress.Yaml
