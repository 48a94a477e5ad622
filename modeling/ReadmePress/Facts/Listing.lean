import ReadmePress.Facts.Options
import ReadmePress.Reading
import ReadmePress.Text.Substring

/-!
The listing of a project directory down to a depth. Each path is written from its first
component on, one component a line; a line that starts a path is not indented, the line of the
component at place n is indented by n steps and led in by a connector.
-/

namespace ReadmePress

open ReadmePress.Text

namespace Listing

/-- The first components of a list, or all but the last ones for a negative depth. -/
def takeDepth (depth : Int) (components : List (List Char)) : List (List Char) :=
  if depth < 0 then components.take (components.length - depth.natAbs)
  else components.take depth.toNat

/-- A backslash separates components like a slash. -/
def unifySlashes (path : List Char) : List Char :=
  path.map fun character => if character = '\\' then '/' else character

/-- A path cut to a depth. -/
def truncatePath (depth : Int) (path : List Char) : List Char :=
  join ['/'] (takeDepth depth (split '/' (unifySlashes path)))

/-- Paths cut to a depth, in order and each once; what is cut to nothing is left out. -/
def truncate (paths : List String) (depth : Int) : List String :=
  let cut := paths.map fun path => String.ofList (truncatePath depth path.toList)
  SortedSet.ofList (cut.filter (· != ""))

def connector : List Char := "└─ ".toList

/-- The line of the component at a place of its path. -/
def line (place : Nat) (name : List Char) : List Char :=
  if place = 0 then name else List.replicate (2 * place) ' ' ++ connector ++ name

def linesFrom (place : Nat) : List (List Char) → List (List Char)
  | [] => []
  | name :: rest => line place name :: linesFrom (place + 1) rest

def pathLines (path : List Char) : List (List Char) := linesFrom 0 (split '/' path)

/-- Writes paths one after the other. -/
def render (paths : List String) : String :=
  String.ofList (join ['\n'] (paths.flatMap fun path => pathLines path.toList))

/-- Patterns of entries that a listing leaves out. -/
def exclusions : List String :=
  ["node_modules/**", "dist/**", ".git/**", "coverage/**", "**/*.map"]

end Listing

/-- Why a directory is not listed. -/
inductive ListingFault where
  | depthOutOfRange
  | file (fault : FileFault)
  deriving DecidableEq, Repr

namespace ListingFault

def message : ListingFault → String
  | .depthOutOfRange => "depth must be between 1 and 5"
  | .file fault => fault.message

end ListingFault

def Workspace.listDirectory (workspace : Workspace) (root : Path) (depth : Int)
    (exclusions : List String) : Except ListingFault String :=
  if !isValidDepth depth then .error .depthOutOfRange
  else
    match workspace.scan root
        { globs := GlobSet.ofPatterns ["**/*"] (Listing.exclusions ++ exclusions)
          listDirectories := true } with
    | .error fault => .error (.file fault)
    | .ok paths => .ok (Listing.render (Listing.truncate paths depth))

end ReadmePress
