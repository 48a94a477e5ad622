import ReadmePress.CommandLine.Run

/-!
The program as it runs on a machine. The files below the working directory, and what else the
words of the line name, are loaded before the run; afterwards the files that have changed are
written back. Links count as links to the real places that they lead to.
-/

namespace ReadmePress.Machine

open ReadmePress ReadmePress.Text

/-- Loads a file or a directory with all that is in it. -/
partial def load (entry : IO.FS.DirEntry) : IO Node := do
  let metadata ← entry.path.symlinkMetadata
  match metadata.type with
  | .dir =>
      let mut entries := []
      for child in ← entry.path.readDir do
        entries := (child.fileName, ← load child) :: entries
      return .directory entries
  | .symlink =>
      if ← entry.path.pathExists then
        return .link (← IO.FS.realPath entry.path).toString
      else return .link ""
  | _ => return .file (← IO.FS.readBinFile entry.path).toList

/-- Puts a node at a place, and directories around it where there are none. -/
def place (files : Node) (location : Location) (node : Node) : Node :=
  let ancestors := (List.range location.length).map location.take
  let around := ancestors.foldl
    (fun files ancestor =>
      if (files.node? ancestor).isSome then files else files.put ancestor (.directory []))
    files
  around.put location node

/-- Loads what a path names, unless it is there already or names nothing. -/
def loadNamed (directory : String) (files : Node) (path : String) : IO Node := do
  let entry : IO.FS.DirEntry := { root := directory, fileName := path }
  if path.isEmpty || path.contains '\x00' then return files
  if ← entry.path.pathExists then
    let real ← IO.FS.realPath entry.path
    let location := (Path.ofString real.toString).components
    if (files.node? location).isSome then return files
    return place files location (← load { root := "/", fileName := real.toString })
  else return files

/-- Writes what has changed at an entry. -/
partial def store (entry : IO.FS.DirEntry) (before : Option Node) (after : Node) : IO Unit := do
  match after with
  | .link _ => return
  | .file content =>
      match before with
      | some (.file old) => if old = content then return
      | _ => pure ()
      IO.FS.writeBinFile entry.path (ByteArray.mk content.toArray)
  | .directory entries =>
      if before.isNone then IO.FS.createDir entry.path
      let known := (before.map Node.entries).getD []
      for (name, child) in entries do
        store { root := entry.path, fileName := name } (OrderedMap.find? known name) child

/-- A text as the error stream shows it: lone surrogates as escapes. -/
def shown (text : WideText) : String :=
  String.ofList (text.flatMap fun
    | .scalar character => [character]
    | .surrogate offset => numericEscape (CodePoint.surrogate offset).toNat)

/-- Runs the program on the files of the machine. -/
def run (line : List String) : IO UInt32 := do
  let directory := (← IO.currentDir).toString
  let home := (← IO.getEnv "HOME").getD "/"
  let words := line.map fun word => (word.splitOn "=").getLastD word
  let homeSettings := home ++ "/.readmegen.yml"
  let files ← ("." :: homeSettings :: words).foldlM (loadNamed directory) (Node.directory [])
  let workspace : Workspace :=
    { files := files
      workingDirectory := (Path.ofString directory).components
      home := home
      accounts := [] }
  let run := Command.runLine workspace (some "this program cannot listen on a port") line
  store { root := "/", fileName := "/" } (some files) run.files
  match run.ending with
  | .ok ending =>
      IO.print ending.output
      IO.eprint (shown ending.errors)
      return UInt32.ofNat ending.code
  | .error _ =>
      IO.eprintln "The run could not be finished."
      return 1

end ReadmePress.Machine

def main (line : List String) : IO UInt32 := ReadmePress.Machine.run line
