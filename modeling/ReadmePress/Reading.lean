import ReadmePress.FileSystem.Workspace
import ReadmePress.Glob
import ReadmePress.Json.Fault
import ReadmePress.Log.Record
import ReadmePress.SortedSet

/-!
Reading a project: single files as text or JSON, and the paths below a directory that patterns
select. A file that cannot be read is no data, and a debug record says why. Hidden entries and
symbolic links below the directory are left out, and an excluded directory with all that is in
it.
-/

namespace ReadmePress

open ReadmePress.Text

/-- What stops a reading, where a missing or broken file does not. -/
inductive ReadingFault where
  | file (fault : FileFault)
  /-- JSON nested too deep. -/
  | tooDeep
  deriving DecidableEq, Repr

namespace Workspace

/-- The text of bytes with its line ends unified. -/
def textOfBytes (bytes : List UInt8) : Except Utf8Error (List Char) :=
  (decodeUtf8 bytes).map unifyNewlines

/-- The source of records about reading. -/
def readingSource : String := "scanner"

def skipUnreadable (path : Path) (reason : String) : Traced ReadingFault (Option (List Char)) :=
  do
    Traced.record .debug readingSource
      (WideText.ofString ("Skipping unreadable file " ++ path.text ++ ": " ++ reason))
    return none

/-- The text of a file, or nothing when it cannot be read. -/
def readText (workspace : Workspace) (path : Path) :
    Traced ReadingFault (Option (List Char)) :=
  match workspace.readBytes path with
  | .error .embeddedNull => Traced.fail (.file .embeddedNull)
  | .error fault => skipUnreadable path fault.message
  | .ok bytes =>
      match textOfBytes bytes with
      | .error error => skipUnreadable path error.message
      | .ok text => return some text

/-- The value of a JSON file, or nothing when it cannot be read. -/
def readJson (workspace : Workspace) (path : Path) : Traced ReadingFault (Option Json) := do
  let ignore := fun (reason : String) => do
    Traced.record .debug readingSource
      (WideText.ofString ("Ignoring unparsable JSON in " ++ path.text ++ ": " ++ reason))
    return none
  match ← workspace.readText path with
  | none => return none
  | some text =>
      match Json.parse text with
      | .ok value => return some value
      | .error .tooDeep => Traced.fail .tooDeep
      | .error (.malformed cause remaining) => ignore (Json.syntaxReport text cause remaining)
      | .error (.integer fault) => ignore fault.message

end Workspace

/-- Which paths a scan lists. -/
structure Selection where
  globs : GlobSet
  /-- Whether directories are listed besides files. -/
  listDirectories : Bool

def isHidden (name : String) : Bool := name.toList.head? = some '.'

/-- The path of an entry below a directory that is itself below the root of the scan. -/
def pathBelow (directory name : String) : String :=
  if directory = "" then name else directory ++ "/" ++ name

namespace Selection

/-! A tree may be as deep as it likes, and a path below the root as long. No bounded stack stops a
scan near a thousand levels, and no limit on the length of a path hides what is below a directory
with a path of 4096 bytes or more. -/

mutual

/-- The selected paths at and below one entry. -/
def scanNode (selection : Selection) (path : String) : Node → List String
  | .link _ => []
  | .file _ => if selection.globs.selects path then [path] else []
  | .directory entries =>
      if selection.globs.excludes path then []
      else
        (if selection.listDirectories && selection.globs.includes path then [path] else [])
          ++ scanEntries selection path entries

/-- The selected paths at and below the entries of a directory. -/
def scanEntries (selection : Selection) (directory : String) :
    List (String × Node) → List String
  | [] => []
  | (name, node) :: rest =>
      (if isHidden name then [] else scanNode selection (pathBelow directory name) node)
        ++ scanEntries selection directory rest

end

end Selection

namespace Workspace

/-- The selected paths below a directory in order; nothing when the path names no directory. -/
def scan (workspace : Workspace) (root : Path) (selection : Selection) :
    Except FileFault (List String) := do
  if ← workspace.isDirectory root then
    match workspace.lookUp true root with
    | .ok (_, node) => .ok (SortedSet.ofList (selection.scanEntries "" node.entries))
    | .error _ => .ok []
  else .ok []

def sourcePatterns : List String := ["**/*.js", "**/*.ts", "**/*.mjs", "**/*.cjs"]

/-- Patterns of files and directories that hold no sources of the project. -/
def sourceExclusions : List String :=
  ["node_modules/**", "dist/**", ".git/**", "**/*.d.ts", "**/*.min.js", "**/*.map"]

/-- The source files below a directory. -/
def sourceFiles (workspace : Workspace) (root : Path) (exclusions : List String) :
    Except FileFault (List String) :=
  workspace.scan root
    { globs := GlobSet.ofPatterns sourcePatterns (sourceExclusions ++ exclusions)
      listDirectories := false }

/-- The path of a file that a scan of a directory lists. -/
def listedFile (root : Path) (relative : String) : Path := root ++ Path.ofString relative

/-- The texts of the source files below a directory, those that cannot be read left out. -/
def sourceTexts (workspace : Workspace) (root : Path) (exclusions : List String) :
    Traced ReadingFault (List (List Char)) := do
  let files ← (Traced.ofExcept (workspace.sourceFiles root exclusions)).mapFault .file
  let texts ← Traced.each (fun file => workspace.readText (listedFile root file)) files
  return texts.filterMap id

end Workspace

end ReadmePress
