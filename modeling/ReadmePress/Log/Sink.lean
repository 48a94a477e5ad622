import ReadmePress.FileSystem.Writing
import ReadmePress.Log.Record
import ReadmePress.Text.Encoding

/-!
Where log records go. A configuration has one console and at most one file; each configuration
replaces the one before it as a whole. The console takes the records from some level on, the
file takes all of them and is only ever added to. Files are written as UTF-8: a record that has
no UTF-8 form is left out of the file, and the console is given a notice of that.
-/

namespace ReadmePress

open ReadmePress.Text

/-- What is asked of the log. -/
structure LogRequest where
  verbose : Bool
  quiet : Bool
  file : Option Path
  deriving DecidableEq, Repr

/-- A place that records go to. -/
inductive LogSink where
  /-- The console, which takes the records from this level on. -/
  | console (least : LogLevel)
  /-- A file, which takes every record. -/
  | file (location : Location)
  deriving DecidableEq, Repr

namespace LogSink

def least : LogSink → LogLevel
  | .console least => least
  | .file _ => .debug

def takes (sink : LogSink) (record : LogRecord) : Bool :=
  sink.least.rank ≤ record.level.rank

end LogSink

namespace LogRequest

/-- The level that the console shows from. To be verbose wins over being quiet. -/
def consoleLevel (request : LogRequest) : LogLevel :=
  if request.verbose then .debug else if request.quiet then .warning else .info

end LogRequest

namespace LogRecord

/-- What every log line about the program is marked with. -/
def program : String := "readmegen"

def consoleLine (record : LogRecord) : WideText :=
  WideText.ofString ("[" ++ program ++ "] " ++ record.level.name ++ " ") ++ record.message
    ++ WideText.ofString "\n"

/-- The full name of what reports. -/
def reporter (record : LogRecord) : WideText :=
  if record.source.isEmpty then WideText.ofString program
  else WideText.ofString (program ++ ".") ++ record.source

/-- A record as it is to stand in a file, with the time at which it was left. -/
def fileLine (time : String) (record : LogRecord) : WideText :=
  WideText.ofString (time ++ " " ++ record.level.name ++ " ") ++ record.reporter
    ++ WideText.ofString ": " ++ record.message ++ WideText.ofString "\n"

end LogRecord

/-- A configuration of the log. -/
structure Logging where
  /-- Records below this level go nowhere. -/
  threshold : LogLevel
  sinks : List LogSink
  deriving DecidableEq, Repr

/-- What the console is given. -/
inductive ConsoleEntry where
  | line (text : WideText)
  /-- A line could not be added to a file. What the notice says about it is up to the runtime. -/
  | notice (fault : UnencodableText)
  deriving DecidableEq, Repr

/-- What has been written to the console, and the tree of files. -/
structure LogOutput where
  console : List ConsoleEntry
  files : Node

namespace Logging

/-- The log before anything has been asked of it. -/
def unset : Logging := { threshold := .unset, sinks := [] }

def addSink (logging : Logging) (sink : LogSink) : Logging :=
  { logging with sinks := logging.sinks ++ [sink] }

def removeSink (logging : Logging) (sink : LogSink) : Logging :=
  { logging with sinks := logging.sinks.erase sink }

/-- The log with the console for its only sink, whatever it had before. -/
def toConsole (previous : Logging) (least : LogLevel) : Logging :=
  let cleared := previous.sinks.foldl removeSink { previous with threshold := least }
  cleared.addSink (.console least)

/-- Configures the log anew. A file is opened at once; where that fails, the console is all that
the log has. -/
def reconfigure (previous : Logging) (workspace : Workspace) (request : LogRequest) :
    Logging × Change Unit :=
  let logging := previous.toConsole request.consoleLevel
  match request.file with
  | none => (logging, { outcome := .ok (), files := workspace.files })
  | some path =>
      let opened := workspace.openForAppending (workspace.absolute path)
      match opened.outcome with
      | .error fault => (logging, { outcome := .error fault, files := opened.files })
      | .ok location =>
          ({ logging.addSink (.file location) with threshold := .debug },
            { outcome := .ok (), files := opened.files })

/-- Configures the log for the first time. -/
def configure (workspace : Workspace) (request : LogRequest) : Change Logging :=
  let (logging, change) := unset.reconfigure workspace request
  { outcome := change.outcome.map fun () => logging, files := change.files }

/-- The effect of a record on one sink. A fault of a file stops neither the program nor the
other sinks. -/
def emitTo (time : String) (record : LogRecord) (output : LogOutput) (sink : LogSink) :
    LogOutput :=
  if !sink.takes record then output
  else match sink with
    | .console _ => { output with console := output.console ++ [.line record.consoleLine] }
    | .file location =>
        match (record.fileLine time).encodable with
        | .ok line => { output with files := output.files.appendTo location (encodeUtf8 line) }
        | .error fault => { output with console := output.console ++ [.notice fault] }

/-- The effect of a record. -/
def emit (logging : Logging) (time : String) (output : LogOutput) (record : LogRecord) :
    LogOutput :=
  if record.level.rank < logging.threshold.rank then output
  else logging.sinks.foldl (emitTo time record) output

/-- What records make a console show that shows a level and those above it. -/
def consoleText (least : LogLevel) (records : List LogRecord) : WideText :=
  (records.filter (LogSink.console least).takes).flatMap LogRecord.consoleLine

end Logging

end ReadmePress
