import ReadmePress.FileSystem.Workspace

/-!
Changes to the tree of files: creating directories, and writing a whole file whose directories
are created first. A step that fails leaves behind what earlier steps have created, so every
operation returns the tree beside its outcome.
-/

namespace ReadmePress

open ReadmePress.Text

/-- The outcome of a change, and the tree after it. -/
structure Change (Value : Type) where
  outcome : Except FileFault Value
  files : Node

namespace Workspace

/-- Creates one directory. Its own directory must exist, and nothing under its name. -/
def makeDirectory (workspace : Workspace) (path : Path) : Change Unit :=
  match workspace.arrive false path with
  | .error fault => { outcome := .error fault, files := workspace.files }
  | .ok (.existing _) =>
      { outcome := .error (.refused .alreadyExists path.text), files := workspace.files }
  | .ok (.missing directory name) =>
      { outcome := .ok (), files := workspace.files.put (directory ++ [name]) (.directory []) }

/-- What a failed creation means: nothing if the directory exists, however it came to. -/
def acceptDirectory (workspace : Workspace) (path : Path) (fault : FileFault) :
    Except FileFault Unit :=
  match fault with
  | .embeddedNull => .error fault
  | _ => do
      if ← workspace.isDirectory path then .ok () else .error fault

/-- Creates a directory unless it exists. -/
def ensureDirectory (workspace : Workspace) (path : Path) : Change Unit :=
  let change := workspace.makeDirectory path
  match change.outcome with
  | .ok () => change
  | .error (.refused .notFound text) =>
      { change with outcome := .error (.refused .notFound text) }
  | .error fault => { change with outcome := workspace.acceptDirectory path fault }

/-- Creates a directory and, where its own directory is missing, that one first. A path has no
more ancestors than components, and however many of them are missing, no bounded stack stops their
creation near a thousand. -/
def makeParents (workspace : Workspace) : (ancestors : Nat) → Path → Change Unit
  | 0, path => workspace.ensureDirectory path
  | ancestors + 1, path =>
      let change := workspace.makeDirectory path
      match change.outcome with
      | .ok () => change
      | .error (.refused .notFound text) =>
          if path.components.isEmpty then
            { change with outcome := .error (.refused .notFound text) }
          else
            let above := workspace.makeParents ancestors path.parent
            match above.outcome with
            | .error fault => { outcome := .error fault, files := above.files }
            | .ok () => ensureDirectory { workspace with files := above.files } path
      | .error fault => { change with outcome := workspace.acceptDirectory path fault }

/-- Creates a directory with all that lead to it. -/
def makeDirectories (workspace : Workspace) (path : Path) : Change Unit :=
  workspace.makeParents path.components.length path

/-- Replaces the content of a file, or creates it in a directory that exists. -/
def writeBytes (workspace : Workspace) (path : Path) (content : List UInt8) : Change Unit :=
  let refuse := fun fault => { outcome := .error fault, files := workspace.files }
  match workspace.arrive true path with
  | .error fault => refuse fault
  | .ok (.missing directory name) =>
      { outcome := .ok (), files := workspace.files.put (directory ++ [name]) (.file content) }
  | .ok (.existing location) =>
      match workspace.files.node? location with
      | some (.file _) =>
          { outcome := .ok (), files := workspace.files.put location (.file content) }
      | _ => refuse (.refused .isDirectory path.text)

/-- The place of a file that is to be added to. The file is created if it is missing. -/
def openForAppending (workspace : Workspace) (path : Path) : Change Location :=
  let refuse := fun fault => { outcome := .error fault, files := workspace.files }
  match workspace.arrive true path with
  | .error fault => refuse fault
  | .ok (.missing directory name) =>
      { outcome := .ok (directory ++ [name])
        files := workspace.files.put (directory ++ [name]) (.file []) }
  | .ok (.existing location) =>
      match workspace.files.node? location with
      | some (.file _) => { outcome := .ok location, files := workspace.files }
      | _ => refuse (.refused .isDirectory path.text)

/-- Writes a text as UTF-8 with its line ends as they are, and returns the number of bytes. -/
def writeText (workspace : Workspace) (path : Path) (content : String) : Change Nat :=
  let directories := workspace.makeDirectories path.parent
  match directories.outcome with
  | .error fault => { outcome := .error fault, files := directories.files }
  | .ok () =>
      let bytes := encodeUtf8 content.toList
      let change := writeBytes { workspace with files := directories.files } path bytes
      { outcome := change.outcome.map fun _ => bytes.length, files := change.files }

end Workspace

end ReadmePress
