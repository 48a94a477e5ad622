import ReadmePress.FileSystem.Fault
import ReadmePress.FileSystem.Node
import ReadmePress.FileSystem.Path

/-!
The surroundings of a run: the tree of files, the working directory and the home directories.
A path is resolved from the working directory, name by name and with every link followed, at
most forty of them. Names have at most 255 bytes and whole paths fewer than 4096.
-/

namespace ReadmePress

open ReadmePress.Text

structure Workspace where
  /-- The root directory. -/
  files : Node
  workingDirectory : Location
  /-- The home directory of the user. -/
  home : String
  /-- The home directories of users by name. -/
  accounts : List (String × String)

/-- Where a path leads. -/
inductive Arrival where
  | existing (location : Location)
  /-- Only the last name is missing, in a directory that exists. -/
  | missing (directory : Location) (name : String)
  deriving DecidableEq, Repr

/-- How far a path leads without following a link. -/
inductive Stretch where
  | arrived (arrival : Arrival)
  | linked (directory : Location) (target : String) (rest : List String)
  | refused (refusal : Refusal)

namespace Workspace

def nameLimit : Nat := 255

def pathLimit : Nat := 4096

def linkLimit : Nat := 40

/-- The names in the target of a link. A target that ends in a slash must be a directory, which
the dot at its end demands. -/
def targetNames (target : String) : List String :=
  let names := ((split '/' target.toList).map String.ofList).filter (· != "")
  if target.toList.getLast? = some '/' then names ++ ["."] else names

/-- Walks names from a place up to the first link. A last link is not followed unless asked. -/
def stretch (files : Node) (followLast : Bool) : Location → List String → Stretch
  | here, [] => .arrived (.existing here)
  | here, name :: rest =>
      match files.node? here with
      | some (.directory entries) =>
          if name = "." then stretch files followLast here rest
          else if name = ".." then stretch files followLast here.dropLast rest
          else if nameLimit < name.utf8ByteSize then .refused .nameTooLong
          else match OrderedMap.find? entries name with
            | none =>
                if rest.isEmpty then .arrived (.missing here name) else .refused .notFound
            | some (.link target) =>
                if followLast || !rest.isEmpty then .linked here target rest
                else .arrived (.existing (here ++ [name]))
            | some _ => stretch files followLast (here ++ [name]) rest
      | _ => .refused .notDirectory

/-- Walks names from a place and follows links while `links` of them are left. -/
def walk (files : Node) (followLast : Bool) :
    (links : Nat) → Location → List String → Except Refusal Arrival
  | links, here, names =>
      match stretch files followLast here names with
      | .arrived arrival => .ok arrival
      | .refused refusal => .error refusal
      | .linked directory target rest =>
          match links with
          | 0 => .error .tooManyLinks
          | left + 1 =>
              walk files followLast left
                (if target.toList.head? = some '/' then [] else directory)
                (targetNames target ++ rest)

/-- The absolute path without double dots that a path stands for, as far as its text tells. -/
def absolute (workspace : Workspace) (path : Path) : Path :=
  let whole := Path.ofLocation workspace.workingDirectory ++ path
  { whole with components := Path.withoutDoubleDots whole.components }

/-- The text of a path that the file system is asked about. -/
def checkedText (path : Path) : Except FileFault String :=
  let text := path.text
  if text.toList.contains '\x00' then .error .embeddedNull
  else if pathLimit ≤ text.utf8ByteSize then .error (.refused .nameTooLong text)
  else .ok text

/-- Where a path leads. -/
def arrive (workspace : Workspace) (followLast : Bool) (path : Path) :
    Except FileFault Arrival := do
  let text ← checkedText path
  let start := if path.isAbsolute then [] else workspace.workingDirectory
  match walk workspace.files followLast linkLimit start path.components with
  | .ok arrival => .ok arrival
  | .error refusal => .error (.refused refusal text)

/-- The node that a path names. -/
def lookUp (workspace : Workspace) (followLast : Bool) (path : Path) :
    Except FileFault (Location × Node) := do
  match ← workspace.arrive followLast path with
  | .missing _ _ => .error (.refused .notFound path.text)
  | .existing location =>
      match workspace.files.node? location with
      | some node => .ok (location, node)
      | none => .error (.refused .notFound path.text)

/-- Answers a question about a path that may name nothing. Only a refusal that does not say so
is passed on. -/
def ask (workspace : Workspace) (path : Path) (question : Node → Bool) :
    Except FileFault Bool :=
  match workspace.lookUp true path with
  | .ok (_, node) => .ok (question node)
  | .error (.refused refusal text) =>
      if refusal.meansAbsent then .ok false else .error (.refused refusal text)
  | .error .embeddedNull => .ok false

/-- Whether a path names something. -/
def holds (workspace : Workspace) (path : Path) : Except FileFault Bool :=
  workspace.ask path fun _ => true

def isDirectory (workspace : Workspace) (path : Path) : Except FileFault Bool :=
  workspace.ask path Node.isDirectory

/-- Whether a path names something, no answer counting as no. -/
def fileExists (workspace : Workspace) (path : Path) : Bool :=
  match workspace.holds path with
  | .ok answer => answer
  | .error _ => false

def readBytes (workspace : Workspace) (path : Path) : Except FileFault (List UInt8) := do
  match ← workspace.lookUp true path with
  | (_, .file content) => .ok content
  | _ => .error (.refused .isDirectory path.text)

end Workspace

end ReadmePress
