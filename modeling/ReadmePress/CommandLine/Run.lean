import ReadmePress.CommandLine.Command
import ReadmePress.Log.Sink
import ReadmePress.Tools.Catalogue
import ReadmePress.Tools.IssueReport

/-!
Running the program on a command line. A document goes to the output, log records and reports go
to the errors, and the exit code tells how the run ended: 0 when it did what it was asked to, 1
when a file operation failed and 2 when the line or the arguments are not valid. Any other
failure is passed on.
-/

namespace ReadmePress

open ReadmePress.Text

/-- What a run that ends by itself leaves behind. -/
structure Ending where
  code : Nat
  output : String
  /-- Log records quote texts of the project, so the errors may hold lone surrogates. -/
  errors : WideText
  /-- The host and port on which the service has been started. -/
  served : Option (GivenValue × Option Int)
  deriving Repr

/-- Why a run does not end by itself. -/
inductive RunFailure where
  | failure (failure : Failure)
  /-- The file to read from has no name. -/
  | namelessSource

/-- A run: how it ends, and the tree of files after it. -/
structure Run where
  ending : Except RunFailure Ending
  files : Node

namespace Command

/-- The report of a failure that the program deals with, and its exit code. -/
def failureReport? (command : Command) (failure : Failure) : Option (Nat × String) :=
  let failed := fun (reason : String) =>
    some (1, program ++ " " ++ command.name ++ " failed: " ++ reason
      ++ "\nRun with --verbose for more details.\n")
  match failure, failure.refusal? with
  | .invalid kind issues, _ =>
      some (2, "Invalid arguments:\n" ++ IssueReport.text kind issues ++ "\n")
  | .notUtf8 error, _ => failed error.message
  | _, some fault => failed fault.message
  | _, none => none

/-- A text as the output shows it: with one line break after it. -/
def shownText (text : String) : String :=
  String.ofList (text.toList.reverse.dropWhile (· == '\n')).reverse ++ "\n"

def consoleLevel (settings : CommandSettings) : LogLevel :=
  LogRequest.consoleLevel
    { verbose := settings.verbose, quiet := settings.quiet, file := none }

/-- The run that an operation comes to. -/
def finish (command : Command) (settings : CommandSettings) (effect : Effect String) : Run :=
  let log := Logging.consoleText (consoleLevel settings) effect.traced.records
  let ending :=
    match effect.traced.outcome with
    | .ok text => .ok { code := 0, output := shownText text, errors := log, served := none }
    | .error failure =>
        match command.failureReport? failure with
        | some (code, report) =>
            .ok
              { code := code
                output := ""
                errors := log ++ WideText.ofString report
                served := none }
        | none => .error (.failure failure)
  { ending := ending, files := effect.files }

def writeMembers (path content : Json) (confirm : Bool) : Members :=
  [(WideText.ofString "file_path", path), (WideText.ofString "content", content),
    (WideText.ofString "confirm", .bool confirm)]

/-- Writes the full document to a path instead of showing it. -/
def writeDocument (workspace : Workspace) (settings : CommandSettings) (path : String)
    (document : Effect String) : Effect String :=
  match document.traced.outcome with
  | .error _ => document
  | .ok text =>
      let effect := Tool.write.invoke { workspace with files := document.files }
        (writeMembers (Json.ofString path) (Json.ofString text) settings.confirm)
      { traced :=
          { outcome := effect.traced.outcome
            records := document.traced.records ++ effect.traced.records }
        files := effect.files }

/-- The full document, shown or written to a path. No path and an empty one mean to show it. -/
def describe (workspace : Workspace) (settings : CommandSettings) : Effect String :=
  let document := Tool.full.invoke workspace settings.members
  match settings.output with
  | some (.text path) =>
      if path = "" then document else writeDocument workspace settings path document
  | _ => document

/-- The text of the file that a content is read from. -/
def sourceText (workspace : Workspace) (path : Path) : Except Failure String := do
  let bytes ← (workspace.readBytes path).mapError .file
  let text ← (Workspace.textOfBytes bytes).mapError .notUtf8
  .ok (String.ofList text)

/-- Writes a text from the line or from a file. -/
def writeText (workspace : Workspace) (settings : CommandSettings) : Run :=
  let path := (Json.member? settings.members "file_path").getD .null
  let invoke := fun content =>
    write.finish settings
      (Tool.write.invoke workspace (writeMembers path content settings.confirm))
  match settings.source with
  | none => invoke ((Json.member? settings.members "content").getD .null)
  | some .nothing => { ending := .error .namelessSource, files := workspace.files }
  | some (.text source) =>
      match sourceText workspace (Path.ofString source) with
      | .ok content => invoke (Json.ofString content)
      | .error failure =>
          write.finish settings { traced := Traced.fail failure, files := workspace.files }

/-- Starts the service. Where nothing can listen, `fault` tells why. -/
def startService (workspace : Workspace) (settings : CommandSettings) (fault : Option String) :
    Run :=
  let place := settings.host.shown ++ ":" ++ (settings.port.map toString).getD ""
  let record := fun level message =>
    { level := level
      source := WideText.ofString "service"
      message := WideText.ofString message }
  let started := record .info ("Serving readmegen tools on " ++ place)
  let shown := fun records => Logging.consoleText (consoleLevel settings) records
  let ending :=
    match fault with
    | none =>
        { code := 0
          output := ""
          errors := shown [started]
          served := some (settings.host, settings.port) }
    | some reason =>
        { code := 1
          output := ""
          errors :=
            shown [started, record .error ("Service failed to start: " ++ reason)]
              ++ WideText.ofString (program ++ " serve failed: " ++ reason ++ "\n")
          served := none }
  { ending := .ok ending, files := workspace.files }

/-- Runs a command. -/
def run (workspace : Workspace) (serviceFault : Option String) (command : Command)
    (settings : CommandSettings) : Run :=
  match command with
  | .detect => detect.finish settings (Tool.detect.invoke workspace settings.members)
  | .short => short.finish settings (Tool.short.invoke workspace settings.members)
  | .full => full.finish settings (describe workspace settings)
  | .write => writeText workspace settings
  | .serve => startService workspace settings serviceFault

/-- The ending of a run whose line is not read to its end. -/
def stopped : Stop → Ending
  | .help text => { code := 0, output := text, errors := [], served := none }
  | .refused program usage fault =>
      { code := 2
        output := ""
        errors := WideText.ofString (usage ++ program ++ ": error: " ++ fault.message ++ "\n")
        served := none }

/-- Runs the program on a line. -/
def runLine (workspace : Workspace) (serviceFault : Option String) (line : List String) : Run :=
  match read line with
  | .error stop => { ending := .ok (stopped stop), files := workspace.files }
  | .ok (command, settings) => command.run workspace serviceFault settings

end Command

end ReadmePress
