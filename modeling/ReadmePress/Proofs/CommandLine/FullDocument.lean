import ReadmePress.Proofs.Document.Ending
import ReadmePress.Proofs.Facts.WideFacts
import ReadmePress.Proofs.Tools.ArgumentNames
import ReadmePress.Proofs.Tools.ConfirmedWrite

/-!
The command for the full document. It does what the tool does with the same values under their
public names: the text is shown as it is, or written to a path as it is, and the exit code tells
apart the kinds of failures.
-/

namespace ReadmePress

open ReadmePress.Text

/-- A failure that the file system or the bytes of a file are to blame for. -/
def Failure.IsOfFiles (failure : Failure) : Prop :=
  failure.refusal?.isSome = true ∨ ∃ error, failure = .notUtf8 error

/-- The run ends by itself with an exit code. -/
def Run.ExitsWith (run : Run) (code : Nat) : Prop :=
  ∃ ending, run.ending = .ok ending ∧ ending.code = code

namespace Command

/-- Which failures the program reports, and with which exit codes. -/
theorem failure_report_iff (command : Command) (failure : Failure) (code : Nat) :
    (∃ report, command.failureReport? failure = some (code, report)) ↔
      (code = 2 ∧ ∃ kind issues, failure = .invalid kind issues) ∨
        (code = 1 ∧ failure.IsOfFiles) := by
  cases failure with
  | invalid kind issues =>
      simp [failureReport?, Failure.IsOfFiles, Failure.refusal?, eq_comm]
  | notUtf8 error => simp [failureReport?, Failure.IsOfFiles, Failure.refusal?, eq_comm]
  | file fault =>
      cases fault <;> simp [failureReport?, Failure.IsOfFiles, Failure.refusal?, eq_comm]
  | settings fault =>
      cases fault with
      | file fault =>
          cases fault <;> simp [failureReport?, Failure.IsOfFiles, Failure.refusal?, eq_comm]
      | _ => simp [failureReport?, Failure.IsOfFiles, Failure.refusal?]
  | _ => simp [failureReport?, Failure.IsOfFiles, Failure.refusal?]

/-- How the run of an operation exits. -/
theorem finish_exits_iff (command : Command) (settings : CommandSettings)
    (effect : Effect String) (code : Nat) :
    (command.finish settings effect).ExitsWith code ↔
      match effect.traced.outcome with
      | .ok _ => code = 0
      | .error failure =>
          (code = 2 ∧ ∃ kind issues, failure = .invalid kind issues) ∨
            (code = 1 ∧ failure.IsOfFiles) := by
  unfold Run.ExitsWith finish
  cases effect.traced.outcome with
  | ok text => simp [eq_comm]
  | error failure =>
      simp only
      rw [← failure_report_iff command failure code]
      cases command.failureReport? failure with
      | none => simp
      | some reported => simp [Prod.ext_iff]

end Command

namespace CommandSettings

/-- The values for the full document under their public names. -/
def documentMembers (settings : CommandSettings) : Members :=
  Argument.publicMembers FullArguments.arguments settings.members

/-- The path that the full document is written to. An empty one is none. -/
def outputPath? (settings : CommandSettings) : Option String :=
  match settings.output with
  | some (.text path) => if path = "" then .none else some path
  | _ => .none

theorem output_path_not_empty (settings : CommandSettings) (path : String)
    (output : settings.outputPath? = some path) : path ≠ "" := by
  unfold outputPath? at output
  split at output
  next found _ =>
    split at output
    next => exact absurd output nofun
    next notEmpty =>
      obtain rfl := Option.some.inj output
      exact notEmpty
  next => exact absurd output nofun

end CommandSettings

namespace Workspace

/-- The full document by the tool for it. -/
def document (workspace : Workspace) (settings : CommandSettings) : Effect String :=
  Tool.full.invoke workspace settings.documentMembers

/-- The full document, written as a file is written where there is a path for it. -/
def deliver (workspace : Workspace) (settings : CommandSettings) : Effect String :=
  let document := workspace.document settings
  match settings.outputPath?, document.traced.outcome with
  | some path, .ok text =>
      let written := workspace.writeFile (Path.ofLocation workspace.workingDirectory)
        { path := path, content := text, confirm := settings.confirm }
      { traced :=
          { outcome := written.traced.outcome
            records := document.traced.records ++ written.traced.records }
        files := written.files }
  | _, _ => document

theorem write_file_error (workspace : Workspace) (directory : Path) (arguments : WriteArguments)
    (failure : Failure)
    (failed : (workspace.writeFile directory arguments).traced.outcome = .error failure) :
    ∃ fault, failure = .file fault := by
  obtain ⟨path, content, confirm⟩ := arguments
  cases confirm with
  | false => exact absurd failed nofun
  | true =>
      rw [confirmed_write_outcome] at failed
      split at failed
      next => exact absurd failed nofun
      next fault _ => exact ⟨fault, (Except.error.inj failed).symm⟩

/-- A text that the tool returns is a full document. -/
theorem document_text (workspace : Workspace) (settings : CommandSettings) (text : String)
    (done : (workspace.document settings).traced.outcome = .ok text) :
    ∃ sheet, text = fullDocument sheet := by
  obtain ⟨arguments, -, described⟩ := Traced.bind_ok _ _ _ done
  obtain ⟨facts, -, written⟩ := Traced.bind_ok _ _ _ described
  obtain ⟨sheet, -, isText⟩ := (Workspace.document_of_ok_iff facts text).mp written
  exact ⟨sheet, isText.symm⟩

end Workspace

namespace Command

theorem text_taken (text : String) (notEmpty : text ≠ "") :
    Reader.text 1 (Json.ofString text) = .ok text := by
  have isText := (WideText.toString?_eq_some_iff (WideText.ofString text) text).mpr rfl
  have long : ¬ text.length < 1 := by
    rw [Nat.lt_one_iff, String.length_eq_zero_iff]
    exact notEmpty
  simp only [Reader.text, Json.ofString, isText, if_neg long]

theorem same_name_iff (name other : String) :
    WideText.ofString name = WideText.ofString other ↔ name = other :=
  ⟨of_string_injective name other, congrArg WideText.ofString⟩

/-- What the command hands to the tool that writes is taken. -/
theorem write_members_taken (path text : String) (confirm : Bool) (isPath : path ≠ "")
    (isText : text ≠ "") :
    WriteArguments.read (writeMembers (Json.ofString path) (Json.ofString text) confirm) =
      .ok { path := path, content := text, confirm := confirm } := by
  have asPath : (Argument.mk "filePath" "file_path").required (Reader.text 1)
      (writeMembers (Json.ofString path) (Json.ofString text) confirm) = .ok path := by
    simp [Argument.required, Argument.given?, Json.member?, writeMembers, OrderedMap.find?,
      same_name_iff, text_taken path isPath, Validated.within, Except.mapError]
  have asContent : (Argument.ofName "content").required (Reader.text 1)
      (writeMembers (Json.ofString path) (Json.ofString text) confirm) = .ok text := by
    simp [Argument.required, Argument.given?, Argument.ofName, Json.member?, writeMembers,
      OrderedMap.find?, same_name_iff, text_taken text isText, Validated.within, Except.mapError]
  have asConfirm : (Argument.ofName "confirm").withDefault false Reader.truth
      (writeMembers (Json.ofString path) (Json.ofString text) confirm) = .ok confirm := by
    simp [Argument.withDefault, Argument.given?, Argument.ofName, Json.member?, writeMembers,
      OrderedMap.find?, same_name_iff, Reader.truth, Validated.within, Except.mapError]
  simp only [WriteArguments.read, asPath, asContent, asConfirm]

theorem write_document_taken (workspace : Workspace) (settings : CommandSettings)
    (path text : String) (document : Effect String) (isPath : path ≠ "") (isText : text ≠ "")
    (unchanged : document.files = workspace.files)
    (done : document.traced.outcome = .ok text) :
    writeDocument workspace settings path document =
      let written := workspace.writeFile (Path.ofLocation workspace.workingDirectory)
        { path := path, content := text, confirm := settings.confirm }
      { traced :=
          { outcome := written.traced.outcome
            records := document.traced.records ++ written.traced.records }
        files := written.files } := by
  have same : { workspace with files := document.files } = workspace := by rw [unchanged]
  simp only [writeDocument, done, same, Tool.invoke, write_members_taken _ _ _ isPath isText]
  rfl

/-- Under the public names the same arguments are refused, though the issues name them
otherwise. -/
theorem document_members_cases (settings : CommandSettings) :
    (∃ arguments, FullArguments.read settings.members = .ok arguments ∧
      FullArguments.read settings.documentMembers = .ok arguments) ∨
      ∃ issues publicIssues, FullArguments.read settings.members = .error issues ∧
        FullArguments.read settings.documentMembers = .error publicIssues := by
  cases read : FullArguments.read settings.members with
  | ok arguments =>
      exact Or.inl ⟨arguments, rfl, (FullArguments.read_public _ arguments).mpr read⟩
  | error issues =>
      cases publicRead : FullArguments.read settings.documentMembers with
      | ok arguments =>
          have taken := (FullArguments.read_public settings.members arguments).mp publicRead
          exact absurd (read.symm.trans taken) nofun
      | error publicIssues => exact Or.inr ⟨issues, publicIssues, rfl, rfl⟩

theorem describe_eq (workspace : Workspace) (settings : CommandSettings) :
    describe workspace settings =
      match settings.outputPath? with
      | none => Tool.full.invoke workspace settings.members
      | some path =>
          writeDocument workspace settings path
            (Tool.full.invoke workspace settings.members) := by
  unfold describe CommandSettings.outputPath?
  cases settings.output with
  | none => rfl
  | some given =>
      cases given with
      | nothing => rfl
      | text path =>
          simp only
          split <;> rfl

/-- The command does what the tools do. -/
theorem describe_delivers (workspace : Workspace) (settings : CommandSettings)
    (arguments : FullArguments) (read : FullArguments.read settings.members = .ok arguments)
    (publicRead : FullArguments.read settings.documentMembers = .ok arguments) :
    describe workspace settings = workspace.deliver settings := by
  have same : Tool.full.invoke workspace settings.members = workspace.document settings := by
    rw [Workspace.document, Tool.invoke, Tool.invoke, read, publicRead]
  rw [describe_eq, same]
  unfold Workspace.deliver
  cases output : settings.outputPath? with
  | none => rfl
  | some path =>
      simp only
      cases outcome : (workspace.document settings).traced.outcome with
      | error failure => simp only [writeDocument, outcome]
      | ok text =>
          obtain ⟨sheet, rfl⟩ := workspace.document_text settings text outcome
          exact write_document_taken workspace settings path _ _
            (settings.output_path_not_empty path output) (document_not_empty sheet)
            (Tool.reading_files workspace .full _ _) outcome

end Command

/-- Something that is not valid made the operation fail. -/
def Effect.IsInvalid (effect : Effect String) : Prop :=
  ∃ kind issues, effect.traced.outcome = .error (.invalid kind issues)

namespace Workspace

variable (workspace : Workspace) (settings : CommandSettings)

theorem deliver_of_error (failure : Failure)
    (failed : (workspace.document settings).traced.outcome = .error failure) :
    workspace.deliver settings = workspace.document settings := by
  unfold deliver
  cases settings.outputPath? <;> simp only [failed]

theorem document_refused (issues : List Issue)
    (refused : Tool.full.refusal? settings.documentMembers = some issues) :
    (workspace.document settings).IsInvalid := by
  rw [document, Tool.full.invoke_refused workspace _ issues refused]
  exact ⟨_, _, rfl⟩

/-- What is not valid is the arguments or the text that the tool would return. -/
theorem deliver_invalid_iff :
    (workspace.deliver settings).IsInvalid ↔
      (Tool.full.refusal? settings.documentMembers).isSome = true ∨
        ∃ text, (workspace.document settings).traced.outcome = .error (.illFormed text) := by
  constructor
  · rintro ⟨kind, issues, failed⟩
    cases outcome : (workspace.document settings).traced.outcome with
    | error failure =>
        rw [deliver_of_error workspace settings failure outcome, outcome] at failed
        cases refusal : Tool.full.refusal? settings.documentMembers with
        | some found => exact Or.inl rfl
        | none =>
            have ofResult := Tool.full.invoke_fails workspace _ refusal failure outcome
            obtain ⟨text, illFormed⟩ := ofResult kind issues (Except.error.inj failed)
            exact Or.inr ⟨text, congrArg Except.error illFormed⟩
    | ok text =>
        unfold deliver at failed
        cases output : settings.outputPath? with
        | none =>
            simp only [output, outcome] at failed
            exact absurd failed nofun
        | some path =>
            simp only [output, outcome] at failed
            obtain ⟨fault, isFile⟩ := write_file_error workspace _ _ _ failed
            exact absurd isFile nofun
  · rintro (refused | ⟨text, illFormed⟩)
    · obtain ⟨issues, isRefusal⟩ := Option.isSome_iff_exists.mp refused
      obtain ⟨kind, found, failed⟩ := document_refused workspace settings issues isRefusal
      refine ⟨kind, found, ?_⟩
      rw [deliver_of_error workspace settings _ failed, failed]
    · rw [Effect.IsInvalid, deliver_of_error workspace settings _ illFormed, illFormed]
      exact ⟨_, _, rfl⟩

end Workspace

namespace Command

variable (workspace : Workspace) (settings : CommandSettings)

theorem describe_refused (issues : List Issue)
    (refused : Tool.full.refusal? settings.members = some issues) :
    (describe workspace settings).IsInvalid ∧
      (describe workspace settings).files = workspace.files := by
  have effect := Tool.full.invoke_refused workspace settings.members issues refused
  rw [describe_eq, effect]
  cases settings.outputPath? <;> exact ⟨⟨_, _, rfl⟩, rfl⟩

/-- The command differs from the tools at most in how it names refused arguments. -/
theorem describe_cases :
    describe workspace settings = workspace.deliver settings ∨
      (describe workspace settings).IsInvalid ∧ (workspace.deliver settings).IsInvalid ∧
        (describe workspace settings).files = (workspace.deliver settings).files := by
  rcases document_members_cases settings with
    ⟨arguments, read, publicRead⟩ | ⟨issues, publicIssues, read, publicRead⟩
  · exact Or.inl (describe_delivers workspace settings arguments read publicRead)
  · have refused : Tool.full.refusal? settings.members = some issues := by
      rw [Tool.refusal?, read]
      rfl
    have publicRefused : Tool.full.refusal? settings.documentMembers = some publicIssues := by
      rw [Tool.refusal?, publicRead]
      rfl
    obtain ⟨isInvalid, unchanged⟩ := describe_refused workspace settings issues refused
    obtain ⟨kind, found, failed⟩ := workspace.document_refused settings _ publicRefused
    have same := workspace.deliver_of_error settings _ failed
    refine Or.inr ⟨isInvalid, ?_, ?_⟩
    · rw [same]
      exact ⟨kind, found, failed⟩
    · rw [same, unchanged]
      rfl

/-- How a run exits depends on the operation alone, and not on how it names refused arguments. -/
theorem full_exits_iff (code : Nat) :
    (full.finish settings (describe workspace settings)).ExitsWith code ↔
      (full.finish settings (workspace.deliver settings)).ExitsWith code := by
  rcases describe_cases workspace settings with
    same | ⟨⟨kind, issues, invalid⟩, ⟨otherKind, otherIssues, otherInvalid⟩, -⟩
  · rw [same]
  · rw [finish_exits_iff, finish_exits_iff, invalid, otherInvalid]
    simp [Failure.IsOfFiles, Failure.refusal?]

/-- The command delivers the full document as the tools would: its output is the text that the
tool returns for the same values, or the file at a path holds that text, and the exit code is 2 for
what is not valid and 1 for what the file system or the bytes of a file are to blame for. -/
structure Delivers (run : Run) : Prop where
  files : run.files = (workspace.deliver settings).files
  shown : settings.outputPath? = none → ∀ text,
    (workspace.document settings).traced.outcome = .ok text →
      run.files = workspace.files ∧ ∃ ending, run.ending = .ok ending ∧ ending.output = text
  written : ∀ path, settings.outputPath? = some path → settings.confirm = true → ∀ text,
    (workspace.document settings).traced.outcome = .ok text → run.ExitsWith 0 →
      ∃ location, workspace.Written (workspace.withFiles run.files)
        (Workspace.writingTarget (Path.ofLocation workspace.workingDirectory) path)
        text.toUTF8.data.toList location
  succeeded : run.ExitsWith 0 ↔ ∃ text, (workspace.deliver settings).traced.outcome = .ok text
  failed : run.ExitsWith 1 ↔
    ∃ failure, (workspace.deliver settings).traced.outcome = .error failure ∧ failure.IsOfFiles
  invalid : run.ExitsWith 2 ↔
    (Tool.full.refusal? settings.documentMembers).isSome = true ∨
      ∃ text, (workspace.document settings).traced.outcome = .error (.illFormed text)

/-- Without a path the text of the tool is shown, byte for byte. -/
theorem full_shows (unwritten : settings.outputPath? = none) (text : String)
    (done : (workspace.document settings).traced.outcome = .ok text) :
    ∃ ending, (full.finish settings (describe workspace settings)).ending = .ok ending ∧
      ending.output = text := by
  have same : workspace.deliver settings = workspace.document settings := by
    unfold Workspace.deliver
    simp only [unwritten]
  rcases describe_cases workspace settings with delivers | ⟨-, ⟨kind, issues, invalid⟩, -⟩
  · obtain ⟨sheet, rfl⟩ := workspace.document_text settings text done
    rw [delivers, same]
    unfold finish
    simp only [done]
    exact ⟨_, rfl, shown_document sheet⟩
  · rw [same, done] at invalid
    exact absurd invalid nofun

/-- A confirmed writing leaves the text of the tool in the file, byte for byte. -/
theorem deliver_writes (path text : String) (output : settings.outputPath? = some path)
    (confirmed : settings.confirm = true)
    (done : (workspace.document settings).traced.outcome = .ok text) (report : String)
    (succeeded : (workspace.deliver settings).traced.outcome = .ok report) :
    ∃ location, workspace.Written (workspace.withFiles (workspace.deliver settings).files)
      (Workspace.writingTarget (Path.ofLocation workspace.workingDirectory) path)
      text.toUTF8.data.toList location := by
  have target := Workspace.write_text_cases workspace
    (Workspace.writingTarget (Path.ofLocation workspace.workingDirectory) path) text
  unfold Workspace.deliver at succeeded ⊢
  simp only [output, done, confirmed] at succeeded ⊢
  rw [Workspace.confirmed_write_outcome] at succeeded
  rw [Workspace.confirmed_write_files, ← encode_eq_bytes]
  rcases target with ⟨fault, failed, -⟩ | ⟨-, written⟩
  · rw [failed] at succeeded
    exact absurd succeeded nofun
  · exact written

theorem run_line_full (line : List String) (serviceFault : Option String)
    (asRead : read line = .ok (.full, settings)) :
    runLine workspace serviceFault line = full.finish settings (describe workspace settings) := by
  rw [runLine, asRead]
  rfl

/-- Any line that is read as the command for the full document delivers it. -/
theorem run_line_delivers (line : List String) (serviceFault : Option String)
    (asRead : read line = .ok (.full, settings)) :
    Delivers workspace settings (runLine workspace serviceFault line) := by
  rw [run_line_full workspace settings line serviceFault asRead]
  have exits (code : Nat) := (full_exits_iff workspace settings code).trans
    (finish_exits_iff full settings (workspace.deliver settings) code)
  have files : (full.finish settings (describe workspace settings)).files =
      (workspace.deliver settings).files := by
    change (describe workspace settings).files = _
    rcases describe_cases workspace settings with same | ⟨-, -, same⟩
    · rw [same]
    · exact same
  have succeeded : (full.finish settings (describe workspace settings)).ExitsWith 0 ↔
      ∃ text, (workspace.deliver settings).traced.outcome = .ok text := by
    rw [exits]
    cases (workspace.deliver settings).traced.outcome <;> simp
  constructor
  case files => exact files
  case shown =>
    intro unwritten text done
    refine ⟨?_, full_shows workspace settings unwritten text done⟩
    rw [files]
    unfold Workspace.deliver
    simp only [unwritten]
    rfl
  case written =>
    intro path output confirmed text done exitsWell
    obtain ⟨report, isReport⟩ := succeeded.mp exitsWell
    rw [files]
    exact deliver_writes workspace settings path text output confirmed done report isReport
  case succeeded => exact succeeded
  case failed =>
    rw [exits]
    cases (workspace.deliver settings).traced.outcome <;> simp
  case invalid =>
    rw [← workspace.deliver_invalid_iff settings, exits, Effect.IsInvalid]
    cases (workspace.deliver settings).traced.outcome <;> simp

end Command

end ReadmePress
