import ReadmePress.Facts.Routes
import ReadmePress.Reading

/-!
Names of environment variables: those that a sample file gives a value, and those that source
files read from `process.env`, after a dot or quoted in brackets. A name is a run of capitals,
digits and low lines.
-/

namespace ReadmePress

open ReadmePress.Text

namespace EnvironmentKey

/-- Characters of a name. -/
def isKeyCharacter (character : Char) : Bool :=
  ('A' ≤ character && character ≤ 'Z') || ('0' ≤ character && character ≤ '9')
    || character == '_'

/-- Takes the longest name, which is not empty, off the front of a text. -/
def takeKey? (text : List Char) : Option (List Char × List Char) :=
  match text.takeWhile isKeyCharacter with
  | [] => none
  | key => some (key, text.dropWhile isKeyCharacter)

/-- The name that a line of a sample file gives a value. -/
def ofSampleLine? (line : List Char) : Option String :=
  match takeKey? line with
  | some (key, '=' :: _) => some (String.ofList key)
  | _ => none

/-- The names in a sample file in the order of its lines. -/
def ofSample (text : List Char) : List String := (lines text).filterMap ofSampleLine?

/-- Takes one quotation mark of any kind off the front of a text. -/
def takeQuote? : List Char → Option (List Char)
  | [] => none
  | character :: rest => if Route.isQuote character then some rest else none

/-- Takes a quoted name in brackets off the front of a text, after the opening bracket. -/
def takeBracketed? (text : List Char) : Option (List Char × List Char) := do
  let rest ← takeQuote? (trimStart text)
  let (key, rest) ← takeKey? rest
  let rest ← takeQuote? rest
  let rest ← Route.takeChar? ']' (trimStart rest)
  some (key, rest)

/-- What every access starts with. -/
def accessMark : String := "process.env"

/-- The name that the access at the front of a text reads, and what follows the access. -/
def accessAt? (text : List Char) : Option (List Char × List Char) :=
  if accessMark.toList.isPrefixOf text then
    match text.drop accessMark.length with
    | '.' :: rest => takeKey? rest
    | '[' :: rest => takeBracketed? rest
    | _ => none
  else none

/-- The names from a place on. The next `passing` characters belong to the last access. -/
def scanFrom : (passing : Nat) → List Char → List String
  | _, [] => []
  | passing + 1, _ :: rest => scanFrom passing rest
  | 0, character :: rest =>
      match accessAt? (character :: rest) with
      | some (key, remaining) =>
          String.ofList key :: scanFrom (rest.length - remaining.length) rest
      | none => scanFrom 0 rest

/-- The names that a source text reads, in order and with repetition. -/
def scan (text : List Char) : List String := scanFrom 0 text

def sampleFileName : String := ".env.example"

end EnvironmentKey

/-- The text of the sample file of a directory, if there is one that can be read. -/
def Workspace.environmentSample (workspace : Workspace) (root : Path) :
    Traced ReadingFault (Option (List Char)) :=
  let path := root ++ Path.ofString EnvironmentKey.sampleFileName
  if workspace.fileExists path then workspace.readText path else return none

/-- The names in the sample file and the source files of a directory, in order. -/
def Workspace.collectEnvironmentKeys (workspace : Workspace) (root : Path)
    (exclusions : List String) : Traced ReadingFault (List String) := do
  let sample ← workspace.environmentSample root
  let texts ← workspace.sourceTexts root exclusions
  let declared := (sample.map EnvironmentKey.ofSample).getD []
  return SortedSet.ofList (declared ++ texts.flatMap EnvironmentKey.scan)

end ReadmePress
