import ReadmePress.Log.Sink
import ReadmePress.Proofs.FileSystem.Appending

/-!
The log over a whole run, in which it is configured again and again and records are left between
the calls. What a call leaves of the log does not depend on the calls before it: one console and at
most one file, each with its own level. Over a run the console shows the records of each phase from
the level of that phase on, and each file receives those of the phases that write to it, every
record once and in order. A record whose line has no UTF-8 form is in no file; where it would have
been written, the console has a notice in its place.
-/

namespace ReadmePress

open ReadmePress.Text

/-- The place of the file that a log writes to. There is none where no file is named, or where the
file cannot be opened. -/
def LogRequest.target? (request : LogRequest) (workspace : Workspace) : Option Location :=
  request.file.bind fun path =>
    (workspace.openForAppending (workspace.absolute path)).outcome.toOption

namespace LogRecord

/-- What a record makes a console show that shows a level and those above it. -/
def shown (record : LogRecord) (least : LogLevel) : List ConsoleEntry :=
  if least.rank ≤ record.level.rank then [.line record.consoleLine] else []

/-- A record reaches files. -/
def ReachesFiles (record : LogRecord) : Prop := LogLevel.debug.rank ≤ record.level.rank

instance (record : LogRecord) : Decidable record.ReachesFiles :=
  inferInstanceAs (Decidable (LogLevel.debug.rank ≤ record.level.rank))

/-- What a record adds to a file: its line, if that has a UTF-8 form. -/
def written (record : LogRecord) (time : String) : List UInt8 :=
  ((record.fileLine time).toChars?.map encodeUtf8).getD []

/-- The notice of a record whose line has no UTF-8 form. -/
def notice (record : LogRecord) (time : String) : List ConsoleEntry :=
  if (record.fileLine time).toChars? = none then [.notice { text := record.fileLine time }]
  else []

/-- What a record gives the console of a log with or without a file. -/
def entries (record : LogRecord) (least : LogLevel) (time : String) (toFile : Bool) :
    List ConsoleEntry :=
  record.shown least
    ++ if toFile = true ∧ record.ReachesFiles then record.notice time else []

end LogRecord

/-- A call that configures the log, and the records that are left before the next one, with the
times at which they are. -/
structure LogPhase where
  request : LogRequest
  records : List (String × LogRecord)

namespace LogPhase

/-- The place of the file that a phase writes to, as it is found in a tree. -/
def target? (workspace : Workspace) (files : Node) (phase : LogPhase) : Option Location :=
  phase.request.target? (workspace.withFiles files)

/-- What records give the console of a log with or without a file. -/
def entriesOf (least : LogLevel) (toFile : Bool) (records : List (String × LogRecord)) :
    List ConsoleEntry :=
  records.flatMap fun record => record.2.entries least record.1 toFile

/-- What the records of a phase give the console when phases write to these targets. -/
def entries (target : LogPhase → Option Location) (phase : LogPhase) : List ConsoleEntry :=
  entriesOf phase.request.consoleLevel (target phase).isSome phase.records

/-- The lines that records add to a file. -/
def linesOf (records : List (String × LogRecord)) : List UInt8 :=
  (records.filter fun record => record.2.ReachesFiles).flatMap
    fun record => record.2.written record.1

/-- What phases add to the file at a place when they write to these targets. -/
def linesAt (target : LogPhase → Option Location) (location : Location)
    (phases : List LogPhase) : List UInt8 :=
  (phases.filter fun phase => target phase = some location).flatMap fun phase =>
    linesOf phase.records

theorem lines_at_cons (target : LogPhase → Option Location) (location : Location)
    (phase : LogPhase) (rest : List LogPhase) :
    linesAt target location (phase :: rest) =
      (if target phase = some location then linesOf phase.records else [])
        ++ linesAt target location rest := by
  by_cases here : target phase = some location
  · simp [linesAt, here]
  · simp [linesAt, here]

theorem lines_at_none (target : LogPhase → Option Location) (location : Location)
    (phases : List LogPhase) (nowhere : ¬ ∃ phase ∈ phases, target phase = some location) :
    linesAt target location phases = [] := by
  have none : phases.filter (fun phase => target phase = some location) = [] := by
    rw [List.filter_eq_nil_iff]
    intro phase member writes
    exact nowhere ⟨phase, member, of_decide_eq_true writes⟩
  rw [linesAt, none]
  rfl

end LogPhase

/-- The log, with what has been written so far. -/
structure LogState where
  logging : Logging
  output : LogOutput

namespace LogState

/-- Configures the log anew. Where its file cannot be opened, the fault goes to the caller, who may
go on. -/
def configure (workspace : Workspace) (state : LogState) (request : LogRequest) : LogState :=
  let (logging, change) :=
    state.logging.reconfigure (workspace.withFiles state.output.files) request
  { logging := logging, output := { state.output with files := change.files } }

def leave (state : LogState) (record : String × LogRecord) : LogState :=
  { state with output := state.logging.emit record.1 state.output record.2 }

def through (workspace : Workspace) (state : LogState) (phase : LogPhase) : LogState :=
  phase.records.foldl leave (state.configure workspace phase.request)

def run (workspace : Workspace) (state : LogState) (phases : List LogPhase) : LogState :=
  phases.foldl (through workspace) state

end LogState

namespace Logging

/-- The log that a call leaves, by the level of its console and the place of its file. -/
def settled (least : LogLevel) (target : Option Location) : Logging :=
  { threshold := if target.isSome then .debug else least
    sinks := .console least :: target.toList.map .file }

theorem remove_each (logging : Logging) :
    logging.sinks.foldl removeSink logging = { logging with sinks := [] } := by
  obtain ⟨threshold, sinks⟩ := logging
  induction sinks with
  | nil => rfl
  | cons sink rest induction =>
      have removed : removeSink { threshold := threshold, sinks := sink :: rest } sink =
          { threshold := threshold, sinks := rest } := by
        simp [removeSink]
      rw [List.foldl_cons, removed]
      exact induction

theorem to_console_eq (previous : Logging) (least : LogLevel) :
    previous.toConsole least = settled least none := by
  simp only [toConsole]
  rw [remove_each { previous with threshold := least }]
  rfl

/-- What a call leaves is told by the call and by where its file stands. -/
theorem reconfigure_settles (previous : Logging) (workspace : Workspace) (request : LogRequest) :
    (previous.reconfigure workspace request).1 =
      settled request.consoleLevel (request.target? workspace) := by
  unfold reconfigure LogRequest.target?
  rw [to_console_eq]
  cases request.file with
  | none => rfl
  | some path =>
      simp only [Option.bind_some]
      cases (workspace.openForAppending (workspace.absolute path)).outcome <;> rfl

end Logging

namespace Node

/-- The second tree is the first one with an addition to the file of a log, if it has one. -/
def AddedAt (before after : Node) (target : Option Location) (addition : List UInt8) : Prop :=
  match target with
  | none => after = before
  | some location => before.Appended after location addition

theorem AddedAt.trans {before between after : Node} {target : Option Location}
    {first second : List UInt8} (firstAdded : before.AddedAt between target first)
    (secondAdded : between.AddedAt after target second) :
    before.AddedAt after target (first ++ second) := by
  cases target with
  | none => exact Eq.trans secondAdded firstAdded
  | some location => exact Appended.trans firstAdded secondAdded

theorem AddedAt.addsFiles {before after : Node} {target : Option Location}
    {addition : List UInt8} (added : before.AddedAt after target addition) :
    before.AddsFiles after := by
  cases target with
  | none =>
      intro location
      rw [show after = before from added]
      exact Or.inl rfl
  | some location => exact Appended.addsFiles added

/-- A file stands at the target, so that an addition can be made. -/
def Holds (files : Node) (target : Option Location) : Prop :=
  ∀ location, target = some location → ∃ content, files.entryAt? location = some (.file content)

theorem AddedAt.holds {before after : Node} {target : Option Location} {addition : List UInt8}
    (added : before.AddedAt after target addition) : after.Holds target := by
  rintro location rfl
  exact ⟨_, Appended.holds added⟩

theorem Holds.added_nothing {files : Node} {target : Option Location}
    (holds : files.Holds target) : files.AddedAt files target [] := by
  cases target with
  | none => rfl
  | some location =>
      obtain ⟨content, found⟩ := holds location rfl
      exact Appended.refl_of_file files location content found

end Node

/-- The second output is the first one with these additions. -/
structure LogOutput.Extended (before after : LogOutput) (target : Option Location)
    (shown : List ConsoleEntry) (added : List UInt8) : Prop where
  console : after.console = before.console ++ shown
  files : before.files.AddedAt after.files target added

namespace LogOutput

theorem Extended.trans {before between after : LogOutput} {target : Option Location}
    {firstShown secondShown : List ConsoleEntry} {firstAdded secondAdded : List UInt8}
    (first : before.Extended between target firstShown firstAdded)
    (second : between.Extended after target secondShown secondAdded) :
    before.Extended after target (firstShown ++ secondShown) (firstAdded ++ secondAdded) := by
  refine ⟨?_, first.files.trans second.files⟩
  rw [second.console, first.console, List.append_assoc]

end LogOutput

namespace Logging

theorem emit_to_console (least : LogLevel) (time : String) (output : LogOutput)
    (record : LogRecord) :
    emitTo time record output (.console least) =
      { output with console := output.console ++ record.shown least } := by
  by_cases reached : least.rank ≤ record.level.rank
  · simp [emitTo, LogSink.takes, LogSink.least, LogRecord.shown, reached]
  · simp [emitTo, LogSink.takes, LogSink.least, LogRecord.shown, reached]

/-- A file takes the line of a record that reaches it, or the console takes the notice. -/
theorem emit_to_file (location : Location) (time : String) (output : LogOutput)
    (record : LogRecord) (reaches : record.ReachesFiles) (content : List UInt8)
    (found : output.files.entryAt? location = some (.file content)) :
    output.Extended (emitTo time record output (.file location)) (some location)
      (record.notice time) (record.written time) := by
  have taken : (LogSink.file location).takes record = true := decide_eq_true reaches
  cases line : (record.fileLine time).toChars? with
  | none =>
      have refused : (record.fileLine time).encodable =
          .error { text := record.fileLine time } := by
        rw [WideText.encodable, line]
      refine ⟨?_, ?_⟩
      · simp [emitTo, taken, refused, LogRecord.notice, line]
      · simpa [emitTo, taken, refused, LogRecord.written, line, Node.AddedAt]
          using Node.Appended.refl_of_file output.files location content found
  | some characters =>
      have encoded : (record.fileLine time).encodable = .ok characters := by
        rw [WideText.encodable, line]
      refine ⟨?_, ?_⟩
      · simp [emitTo, taken, encoded, LogRecord.notice, line]
      · simpa [emitTo, taken, encoded, LogRecord.written, line, Node.AddedAt]
          using Node.appended_of_append_to output.files location content
            (encodeUtf8 characters) found

/-- Without a file, a record goes to the console if it reaches it. -/
theorem emit_without_file (least : LogLevel) (time : String) (output : LogOutput)
    (record : LogRecord) :
    (settled least none).emit time output record =
      { output with console := output.console ++ record.shown least } := by
  by_cases reached : least.rank ≤ record.level.rank
  · simp [emit, settled, emit_to_console, Int.not_lt.mpr reached]
  · have nothing : record.shown least = [] := if_neg reached
    simp [emit, settled, nothing, Int.not_le.mp reached]

/-- With a file, a record that reaches it goes there after it has gone to the console. -/
theorem emit_with_file (least : LogLevel) (location : Location) (time : String)
    (output : LogOutput) (record : LogRecord) (reaches : record.ReachesFiles)
    (content : List UInt8) (found : output.files.entryAt? location = some (.file content)) :
    output.Extended ((settled least (some location)).emit time output record) (some location)
      (record.shown least ++ record.notice time) (record.written time) := by
  have toConsole : output.Extended (emitTo time record output (.console least)) (some location)
      (record.shown least) [] := by
    rw [emit_to_console]
    exact ⟨rfl, Node.Appended.refl_of_file _ location content found⟩
  have toFile := emit_to_file location time (emitTo time record output (.console least)) record
    reaches content (by rw [emit_to_console]; exact found)
  have emitted : (settled least (some location)).emit time output record =
      emitTo time record (emitTo time record output (.console least)) (.file location) :=
    if_neg (Int.not_lt.mpr reaches)
  rw [emitted]
  exact toConsole.trans toFile

/-- A record goes once to each sink that it reaches. That the log as a whole has one threshold
keeps nothing back. -/
theorem emit_extends (least : LogLevel) (target : Option Location) (time : String)
    (output : LogOutput) (record : LogRecord)
    (debugFirst : LogLevel.debug.rank ≤ least.rank) (holds : output.files.Holds target) :
    output.Extended ((settled least target).emit time output record) target
      (record.entries least time target.isSome) (LogPhase.linesOf [(time, record)]) := by
  cases target with
  | none =>
      rw [emit_without_file]
      exact ⟨by simp [LogRecord.entries], rfl⟩
  | some location =>
      by_cases reaches : record.ReachesFiles
      · obtain ⟨content, found⟩ := holds location rfl
        have lines : LogPhase.linesOf [(time, record)] = record.written time := by
          simp [LogPhase.linesOf, reaches]
        have entries : record.entries least time true =
            record.shown least ++ record.notice time := by
          simp [LogRecord.entries, reaches]
        rw [lines, Option.isSome_some, entries]
        exact emit_with_file least location time output record reaches content found
      · have below : record.level.rank < LogLevel.debug.rank := Int.not_le.mp reaches
        have nothing : record.shown least = [] :=
          if_neg (Int.not_le.mpr (Int.lt_of_lt_of_le below debugFirst))
        have emitted : (settled least (some location)).emit time output record = output :=
          if_pos below
        refine ⟨?_, ?_⟩
        · rw [emitted]
          simp [LogRecord.entries, reaches, nothing]
        · rw [emitted]
          simpa [LogPhase.linesOf, reaches] using holds.added_nothing

end Logging

theorem LogRequest.debug_first (request : LogRequest) :
    LogLevel.debug.rank ≤ request.consoleLevel.rank := by
  unfold consoleLevel
  split
  · exact Int.le_refl _
  · split <;> decide

namespace LogState

/-- Records leave the log as it is and go where it says. -/
theorem leave_each (least : LogLevel) (target : Option Location) (state : LogState)
    (records : List (String × LogRecord)) (debugFirst : LogLevel.debug.rank ≤ least.rank)
    (isSettled : state.logging = Logging.settled least target)
    (holds : state.output.files.Holds target) :
    (records.foldl leave state).logging = Logging.settled least target ∧
      state.output.Extended (records.foldl leave state).output target
        (LogPhase.entriesOf least target.isSome records) (LogPhase.linesOf records) := by
  induction records generalizing state with
  | nil =>
      refine ⟨isSettled, ?_, holds.added_nothing⟩
      exact (List.append_nil _).symm
  | cons record rest induction =>
      obtain ⟨time, record⟩ := record
      have first :=
        Logging.emit_extends least target time state.output record debugFirst holds
      rw [← isSettled] at first
      obtain ⟨stillSettled, others⟩ :=
        induction (state.leave (time, record)) isSettled first.files.holds
      have lines : LogPhase.linesOf ((time, record) :: rest) =
          LogPhase.linesOf [(time, record)] ++ LogPhase.linesOf rest := by
        rw [LogPhase.linesOf, ← List.singleton_append, List.filter_append, List.flatMap_append]
        rfl
      rw [List.foldl_cons, lines, LogPhase.entriesOf, List.flatMap_cons]
      exact ⟨stillSettled, first.trans others⟩

theorem configure_state (workspace : Workspace) (state : LogState) (request : LogRequest) :
    let target := request.target? (workspace.withFiles state.output.files)
    (state.configure workspace request).logging =
        Logging.settled request.consoleLevel target ∧
      state.output.Extended (state.configure workspace request).output target [] [] := by
  intro target
  refine ⟨Logging.reconfigure_settles _ _ request, (List.append_nil _).symm, ?_⟩
  simp only [target, configure, Logging.reconfigure, LogRequest.target?]
  cases request.file with
  | none => rfl
  | some path =>
      simp only [Option.bind_some]
      rcases (workspace.withFiles state.output.files).open_cases
          ((workspace.withFiles state.output.files).absolute path) with
        ⟨fault, refused⟩ | ⟨location, opened, appended⟩
      · rw [refused]
        rfl
      · rw [opened]
        exact appended

/-- A phase in one step: how the log stands after it, and what it has written. -/
theorem through_state (workspace : Workspace) (state : LogState) (phase : LogPhase) :
    let target := phase.target? workspace state.output.files
    (state.through workspace phase).logging =
        Logging.settled phase.request.consoleLevel target ∧
      state.output.Extended (state.through workspace phase).output target
        (phase.entries (LogPhase.target? workspace state.output.files))
        (LogPhase.linesOf phase.records) := by
  intro target
  obtain ⟨isSettled, opened⟩ := configure_state workspace state phase.request
  obtain ⟨stillSettled, left⟩ := leave_each phase.request.consoleLevel target
    (state.configure workspace phase.request) phase.records phase.request.debug_first isSettled
    opened.files.holds
  refine ⟨stillSettled, ?_⟩
  have whole := opened.trans left
  rwa [List.nil_append, List.nil_append] at whole

end LogState

/-- What has been added to files does not change where a log writes to. -/
theorem LogRequest.target_added (request : LogRequest) (workspace : Workspace) (after : Node)
    (adds : workspace.files.AddsFiles after) :
    request.target? (workspace.withFiles after) = request.target? workspace := by
  unfold target?
  cases request.file with
  | none => rfl
  | some path =>
      exact workspace.opened_same after adds (workspace.absolute path)
        (workspace.absolute_from_root path)

namespace LogState

variable (workspace : Workspace)

/-- Phases leave it as it was where other phases write to. -/
theorem through_targets (state : LogState) (phase : LogPhase) :
    LogPhase.target? workspace (state.through workspace phase).output.files =
      LogPhase.target? workspace state.output.files := by
  have adds := (through_state workspace state phase).2.files.addsFiles
  funext other
  exact other.request.target_added (workspace.withFiles state.output.files) _ adds

theorem run_targets (state : LogState) (phases : List LogPhase) :
    LogPhase.target? workspace (state.run workspace phases).output.files =
      LogPhase.target? workspace state.output.files := by
  induction phases generalizing state with
  | nil => rfl
  | cons phase rest induction =>
      exact (induction (state.through workspace phase)).trans
        (through_targets workspace state phase)

theorem run_console (target : LogPhase → Option Location) (state : LogState)
    (targets : LogPhase.target? workspace state.output.files = target) (phases : List LogPhase) :
    (state.run workspace phases).output.console =
      state.output.console ++ phases.flatMap (LogPhase.entries target) := by
  induction phases generalizing state with
  | nil => exact (List.append_nil _).symm
  | cons phase rest induction =>
      have first := (through_state workspace state phase).2.console
      have others := induction (state.through workspace phase)
        ((through_targets workspace state phase).trans targets)
      rw [targets] at first
      rw [first, List.append_assoc] at others
      rw [List.flatMap_cons]
      exact others

theorem through_file (state : LogState) (phase : LogPhase) (location : Location) :
    (state.through workspace phase).output.files.entryAt? location =
      if phase.target? workspace state.output.files = some location then
        some (.file (state.output.files.contentAt location ++ LogPhase.linesOf phase.records))
      else state.output.files.entryAt? location := by
  have added := (through_state workspace state phase).2.files
  cases target : phase.target? workspace state.output.files with
  | none =>
      rw [target] at added
      rw [show (state.through workspace phase).output.files = state.output.files from added]
      rfl
  | some place =>
      rw [target] at added
      by_cases same : place = location
      · subst same
        rw [if_pos rfl]
        exact Node.Appended.holds added
      · rw [if_neg (by simpa using same)]
        exact Node.Appended.elsewhere added location (Ne.symm same)

/-- The file at a place has in the end what the phases that write there have added to it, one
after the other. -/
theorem run_file (target : LogPhase → Option Location) (state : LogState)
    (targets : LogPhase.target? workspace state.output.files = target) (phases : List LogPhase)
    (location : Location) :
    (state.run workspace phases).output.files.entryAt? location =
      if ∃ phase ∈ phases, target phase = some location then
        some (.file (state.output.files.contentAt location ++
          LogPhase.linesAt target location phases))
      else state.output.files.entryAt? location := by
  induction phases generalizing state with
  | nil => simp [run]
  | cons phase rest induction =>
      have first := through_file workspace state phase location
      have others := induction (state.through workspace phase)
        ((through_targets workspace state phase).trans targets)
      rw [targets] at first
      rw [run, List.foldl_cons, ← run, others, LogPhase.lines_at_cons]
      by_cases here : target phase = some location
      · rw [if_pos here] at first
        have among : ∃ other ∈ phase :: rest, target other = some location :=
          ⟨phase, List.mem_cons_self, here⟩
        rw [if_pos here, if_pos among, first, Node.content_at_file _ location _ first,
          List.append_assoc]
        split
        next => rfl
        next nowhere => rw [LogPhase.lines_at_none target location rest nowhere, List.append_nil]
      · rw [if_neg here] at first
        have sameContent : (state.through workspace phase).output.files.contentAt location =
            state.output.files.contentAt location := by
          rw [Node.contentAt, first]
          rfl
        have later : (∃ other ∈ phase :: rest, target other = some location) ↔
            ∃ other ∈ rest, target other = some location := by
          simp [here]
        rw [if_neg here, first, sameContent, List.nil_append]
        simp only [later]

/-- A record that quotes half of a surrogate pair. -/
def unencodableRecord : LogRecord :=
  { level := .info, source := [], message := [.surrogate ⟨0, by decide⟩] }

/-- The record above, left while the log writes to a file. -/
def unencodablePhase : LogPhase :=
  { request := { verbose := false, quiet := false, file := some (Path.ofString "run.log") }
    records := [("2000-01-01 00:00:00,000", unencodableRecord)] }

/-- A directory without entries. -/
def emptyRoot : Workspace :=
  { files := .directory [], workingDirectory := [], home := "/", accounts := [] }

end LogState

end ReadmePress
