/-!
Path patterns. A pattern is read from left to right into tokens; each token stands for a set of
texts, and a path matches when it can be cut into one text for each token in order. A star keeps
within one name, two stars cross directories, and no pattern crosses a line feed except by a
single star or question mark.
-/

namespace ReadmePress

inductive GlobToken where
  /-- Two stars and a slash: nothing, or any text up to a slash. -/
  | directories
  /-- A slash and two stars at the end: the directory itself, or anything in it. -/
  | subtree
  /-- Two stars: any text. -/
  | anything
  /-- A star: any text within one name. -/
  | anyName
  /-- A question mark: one character of a name. -/
  | anyCharacter
  | literal (character : Char)
  deriving DecidableEq, Repr

/-- A pattern as its tokens. -/
abbrev Glob := List GlobToken

namespace Glob

/-- Reads a pattern. -/
def ofChars : List Char → Glob
  | [] => []
  | '*' :: '*' :: '/' :: rest => .directories :: ofChars rest
  | ['/', '*', '*'] => [.subtree]
  | '*' :: '*' :: rest => .anything :: ofChars rest
  | '*' :: rest => .anyName :: ofChars rest
  | '?' :: rest => .anyCharacter :: ofChars rest
  | character :: rest => .literal character :: ofChars rest

/-- Reads a pattern. -/
def ofString (pattern : String) : Glob := ofChars pattern.toList

/-- Characters that two stars may cross. -/
def isCrossable (character : Char) : Bool := character != '\n'

def isInName (character : Char) : Bool := character != '/'

/-- Whether some run of admitted characters can be taken off the text so that the rest is
accepted. -/
def matchesRun (admits : Char → Bool) (accepts : List Char → Bool) : List Char → Bool
  | [] => accepts []
  | character :: rest =>
      accepts (character :: rest) || (admits character && matchesRun admits accepts rest)

/-- Accepts a slash and what follows it. -/
def afterSlash (accepts : List Char → Bool) : List Char → Bool
  | '/' :: rest => accepts rest
  | _ => false

/-- Whether the tokens match the whole text. -/
def matchesChars : Glob → List Char → Bool
  | [], text => text.isEmpty
  | .literal expected :: tokens, text =>
      match text with
      | [] => false
      | character :: rest => character == expected && matchesChars tokens rest
  | .anyCharacter :: tokens, text =>
      match text with
      | [] => false
      | character :: rest => isInName character && matchesChars tokens rest
  | .anyName :: tokens, text => matchesRun isInName (matchesChars tokens) text
  | .anything :: tokens, text => matchesRun isCrossable (matchesChars tokens) text
  | .directories :: tokens, text =>
      matchesChars tokens text
        || matchesRun isCrossable (afterSlash (matchesChars tokens)) text
  | .subtree :: tokens, text =>
      matchesChars tokens text
        || afterSlash (matchesRun isCrossable (matchesChars tokens)) text

def matchesPath (glob : Glob) (path : String) : Bool := glob.matchesChars path.toList

end Glob

/-- Patterns that select paths, and patterns that reject them. -/
structure GlobSet where
  included : List Glob
  excluded : List Glob

namespace GlobSet

def ofPatterns (included excluded : List String) : GlobSet :=
  { included := included.map Glob.ofString, excluded := excluded.map Glob.ofString }

def includes (globs : GlobSet) (path : String) : Bool :=
  globs.included.any fun glob => glob.matchesPath path

def excludes (globs : GlobSet) (path : String) : Bool :=
  globs.excluded.any fun glob => glob.matchesPath path

/-- A path is selected when a pattern includes it and none excludes it. -/
def selects (globs : GlobSet) (path : String) : Bool :=
  globs.includes path && !globs.excludes path

end GlobSet

end ReadmePress
