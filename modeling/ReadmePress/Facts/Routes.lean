import ReadmePress.Reading
import ReadmePress.Text.Word

/-!
HTTP routes in source files. A route is a call of a verb on `app` or `router` with a quoted
path; the three kinds of quotes count alike and need not match. Comments are not told apart from
code, and a route whose path is computed is not found.
-/

namespace ReadmePress

open ReadmePress.Text

structure Route where
  verb : String
  /-- The text between the quotes. -/
  path : List Char
  deriving DecidableEq, Repr

namespace Route

/-- The method in capitals and the path. -/
def text (route : Route) : String := route.verb.toUpper ++ " " ++ String.ofList route.path

def receivers : List String := ["app", "router"]

def verbs : List String := ["get", "post", "put", "delete", "patch", "options", "head"]

def isQuote (character : Char) : Bool :=
  character == '"' || character == '\'' || character == Char.ofNat 0x60

/-- Takes one of the words off the front of a text. -/
def takeWord? (words : List String) (text : List Char) : Option (String × List Char) :=
  words.findSome? fun word =>
    if word.toList.isPrefixOf text then some (word, text.drop word.length) else none

/-- Takes one character off the front of a text. -/
def takeChar? (expected : Char) : List Char → Option (List Char)
  | [] => none
  | character :: rest => if character = expected then some rest else none

/-- Takes a quoted text, which is not empty, off the front of a text. -/
def takeQuoted? : List Char → Option (List Char × List Char)
  | [] => none
  | mark :: rest =>
      if !isQuote mark then none
      else match rest.takeWhile (!isQuote ·), rest.dropWhile (!isQuote ·) with
        | [], _ => none
        | _, [] => none
        | inner, _ :: more => some (inner, more)

/-- The route that a text starts with, and what follows it. -/
def at? (text : List Char) : Option (Route × List Char) := do
  let (_, rest) ← takeWord? receivers text
  let rest ← takeChar? '.' rest
  let (verb, rest) ← takeWord? verbs rest
  let rest ← takeChar? '(' (trimStart rest)
  let (path, rest) ← takeQuoted? (trimStart rest)
  some ({ verb := verb, path := path }, rest)

/-- The routes from a place on. The next `passing` characters belong to the last route, and
`inWord` tells whether a word character came before, so that no receiver starts here. -/
def scanFrom : (passing : Nat) → (inWord : Bool) → List Char → List Route
  | _, _, [] => []
  | passing + 1, _, character :: rest => scanFrom passing (isWord character) rest
  | 0, inWord, character :: rest =>
      match if inWord then none else at? (character :: rest) with
      | some (route, remaining) =>
          route :: scanFrom (rest.length - remaining.length) (isWord character) rest
      | none => scanFrom 0 (isWord character) rest

/-- The routes of a text in order; no two share a character. -/
def scan (text : List Char) : List Route := scanFrom 0 false text

/-- The most routes that are listed. -/
def limit : Nat := 20

end Route

/-- The routes in the source files below a directory, in order and at most twenty. -/
def Workspace.collectRoutes (workspace : Workspace) (root : Path) (exclusions : List String) :
    Traced ReadingFault (List String) := do
  let texts ← workspace.sourceTexts root exclusions
  let routes := SortedSet.ofList (texts.flatMap fun text => (Route.scan text).map Route.text)
  if Route.limit < routes.length then
    Traced.record .debug "analyzers.routes"
      (WideText.ofString
        ("Truncating " ++ toString routes.length ++ " routes to " ++ toString Route.limit))
  return routes.take Route.limit

end ReadmePress
