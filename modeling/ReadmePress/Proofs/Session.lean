import ReadmePress.CommandLine.Run
import ReadmePress.Proofs.CommandLine.Confirmation
import ReadmePress.Proofs.Tools.Confirmation
import ReadmePress.Service.Endpoints

/-!
Sessions: tools that are invoked, lines that are run and requests that are answered, one after
the other on the same files. A session in which nothing is confirmed changes no file, however
its steps end.
-/

namespace ReadmePress

open ReadmePress.Text

namespace Command

theorem member_of_write_members (path content : Json) (confirm : Bool) :
    Json.member? (writeMembers path content confirm) "confirm" = some (.bool confirm) := by
  have notPath : WideText.ofString "file_path" ≠ WideText.ofString "confirm" := by decide
  have notContent : WideText.ofString "content" ≠ WideText.ofString "confirm" := by decide
  simp [Json.member?, writeMembers, OrderedMap.find?, notPath, notContent]

theorem write_members_unconfirmed (path content : Json) (settings : CommandSettings)
    (unconfirmed : Unconfirmed settings) :
    ¬ Members.Confirm (writeMembers path content settings.confirm) := by
  rintro ⟨value, given, meansYes⟩
  rw [member_of_write_members, Option.some.injEq] at given
  subst given
  rw [unconfirmed] at meansYes
  simp [Json.MeansYes] at meansYes

theorem describe_unconfirmed (workspace : Workspace) (settings : CommandSettings)
    (unconfirmed : Unconfirmed settings) :
    (describe workspace settings).files = workspace.files := by
  have onlyRead : (Tool.full.invoke workspace settings.members).files = workspace.files :=
    Tool.invoke_unconfirmed workspace .full settings.members (by simp)
  simp only [describe]
  split
  next path _ =>
    split
    · exact onlyRead
    · simp only [writeDocument]
      split
      next => exact onlyRead
      next text _ =>
        exact (Tool.write_unconfirmed _ _
          (write_members_unconfirmed _ _ settings unconfirmed)).trans onlyRead
  next => exact onlyRead

theorem write_text_unconfirmed (workspace : Workspace) (settings : CommandSettings)
    (unconfirmed : Unconfirmed settings) :
    (writeText workspace settings).files = workspace.files := by
  have invoked : ∀ path content,
      (Tool.write.invoke workspace (writeMembers path content settings.confirm)).files =
        workspace.files :=
    fun path content => Tool.write_unconfirmed workspace _
      (write_members_unconfirmed path content settings unconfirmed)
  simp only [writeText]
  split
  next => exact invoked _ _
  next => rfl
  next source _ =>
    split
    next content _ => exact invoked _ _
    next => rfl

theorem run_unconfirmed (workspace : Workspace) (serviceFault : Option String)
    (command : Command) (settings : CommandSettings) (unconfirmed : Unconfirmed settings) :
    (command.run workspace serviceFault settings).files = workspace.files := by
  cases command with
  | detect => exact Tool.invoke_unconfirmed workspace .detect settings.members (by simp)
  | short => exact Tool.invoke_unconfirmed workspace .short settings.members (by simp)
  | full => exact describe_unconfirmed workspace settings unconfirmed
  | write => exact write_text_unconfirmed workspace settings unconfirmed
  | serve => rfl

/-- The line is read, it asks for its writing, and a word of it is the option for that. -/
def LineConfirms (line : List String) : Prop :=
  (∃ command settings, read line = .ok (command, settings) ∧ settings.confirm = true) ∧
    ∃ word ∈ line, Word.NamesOption "--confirm" word

theorem run_line_unconfirmed (workspace : Workspace) (serviceFault : Option String)
    (line : List String) (unconfirmed : ¬ LineConfirms line) :
    (runLine workspace serviceFault line).files = workspace.files := by
  simp only [runLine]
  split
  next => rfl
  next command settings asRead =>
    apply run_unconfirmed workspace serviceFault command settings
    cases confirm : settings.confirm with
    | false => exact confirm
    | true =>
        refine unconfirmed_of_line line command settings ?_ asRead
        intro word member names
        exact unconfirmed ⟨⟨command, settings, asRead, confirm⟩, word, member, names⟩

end Command

namespace Service

/-- The request invokes the tool that writes, and its body confirms the writing. -/
def RequestConfirms (request : HttpRequest) : Prop :=
  request.verb = "POST" ∧
    Endpoint.ofPath? request.plainPath = some (.invocation Tool.write.name.toList) ∧
    ∃ members, readMembers request = .ok members ∧ Members.Confirm members

theorem invoke_unconfirmed (workspace : Workspace) (name : List Char) (request : HttpRequest)
    (unconfirmed : name = Tool.write.name.toList →
      ∀ members, readMembers request = .ok members → ¬ Members.Confirm members) :
    (invoke workspace name request).files = workspace.files := by
  simp only [invoke]
  split
  next => rfl
  next => rfl
  next members tool asMembers named =>
    apply Tool.invoke_unconfirmed workspace tool members
    rintro rfl
    refine unconfirmed ?_ members asMembers
    have sameName := List.find?_some named
    rw [decide_eq_true_eq] at sameName
    rw [sameName, String.toList_ofList]

theorem answer_unconfirmed (workspace : Workspace) (request : HttpRequest)
    (unconfirmed : ¬ RequestConfirms request) :
    (answer workspace request).files = workspace.files := by
  simp only [answer]
  split
  next endpoint asEndpoint =>
    split
    · rfl
    next sameVerb =>
      split
      · rfl
      · rfl
      next name =>
        apply invoke_unconfirmed workspace name request
        rintro rfl members asMembers confirm
        have posted : request.verb = "POST" := by simpa [Endpoint.verb] using sameVerb
        exact unconfirmed ⟨posted, asEndpoint, members, asMembers, confirm⟩
  next => split <;> rfl

end Service

/-- What the program is asked for. -/
inductive Demand where
  | tool (name : String) (arguments : Json)
  | line (serviceFault : Option String) (words : List String)
  | request (request : HttpRequest)

namespace Demand

/-- The demand carries a confirmation that means yes. -/
def Confirms : Demand → Prop
  | .tool name arguments => name = Tool.write.name ∧
      ∃ members, Members.ofJson arguments = .ok members ∧ Members.Confirm members
  | .line _ words => Command.LineConfirms words
  | .request sent => Service.RequestConfirms sent

/-- The files after a demand. -/
def filesAfter (workspace : Workspace) : Demand → Node
  | .tool name arguments =>
      match Tool.ofName? name, Members.ofJson arguments with
      | some known, .ok members => (known.invoke workspace members).files
      | _, _ => workspace.files
  | .line serviceFault words => (Command.runLine workspace serviceFault words).files
  | .request sent => (Service.answer workspace sent).files

theorem files_after_unconfirmed (workspace : Workspace) (demand : Demand)
    (unconfirmed : ¬ demand.Confirms) : demand.filesAfter workspace = workspace.files := by
  cases demand with
  | tool name arguments =>
      simp only [filesAfter]
      split
      next known members named asMembers =>
        apply Tool.invoke_unconfirmed workspace known members
        rintro rfl confirm
        have sameName := List.find?_some named
        rw [decide_eq_true_eq] at sameName
        exact unconfirmed ⟨sameName.symm, members, asMembers, confirm⟩
      next => rfl
  | line serviceFault words =>
      exact Command.run_line_unconfirmed workspace serviceFault words unconfirmed
  | request sent => exact Service.answer_unconfirmed workspace sent unconfirmed

end Demand

/-- A step of a session: a demand, and the surroundings besides the files. -/
structure SessionStep where
  workingDirectory : Location
  home : String
  accounts : List (String × String)
  demand : Demand

namespace SessionStep

/-- The files after a step. -/
def run (files : Node) (step : SessionStep) : Node :=
  step.demand.filesAfter
    { files := files
      workingDirectory := step.workingDirectory
      home := step.home
      accounts := step.accounts }

theorem run_unconfirmed (files : Node) (step : SessionStep)
    (unconfirmed : ¬ step.demand.Confirms) : step.run files = files :=
  Demand.files_after_unconfirmed _ step.demand unconfirmed

end SessionStep

/-- The files after a session. -/
def sessionFiles (files : Node) (steps : List SessionStep) : Node :=
  steps.foldl SessionStep.run files

theorem unconfirmed_session_keeps_files (files : Node) (steps : List SessionStep)
    (unconfirmed : ∀ step ∈ steps, ¬ step.demand.Confirms) :
    sessionFiles files steps = files := by
  induction steps generalizing files with
  | nil => rfl
  | cons step rest induction =>
      have first := SessionStep.run_unconfirmed files step (unconfirmed step List.mem_cons_self)
      have others := induction files fun other member =>
        unconfirmed other (List.mem_cons_of_mem step member)
      rw [sessionFiles, List.foldl_cons, first]
      exact others

/-- A file is asked to be written by a tool, by a line and by a request, never with a
confirmation. -/
def previewSession : List SessionStep :=
  let write := fun confirm => Command.writeMembers (Json.ofString "a") (Json.ofString "b") confirm
  let demands :=
    [.tool "writeFile" (.object (write false)), .line none ["write", "a", "--content", "b"],
      .request { verb := "POST", path := "/tools/writeFile", contentType := "", body := [] }]
  demands.map fun demand =>
    { workingDirectory := [], home := "/", accounts := [], demand := demand }

theorem preview_session_keeps_files :
    sessionFiles (.directory [("a", .file [])]) previewSession = .directory [("a", .file [])] := by
  apply unconfirmed_session_keeps_files _ previewSession
  simp only [previewSession, List.map_cons, List.map_nil, List.forall_mem_cons]
  refine ⟨?_, ?_, ?_, by simp⟩
  · rintro ⟨-, members, asMembers, confirm⟩
    cases asMembers
    exact Command.write_members_unconfirmed _ _ CommandSettings.none rfl confirm
  · rintro ⟨-, word, member, names⟩
    revert word
    decide
  · rintro ⟨-, -, members, asMembers, value, given, -⟩
    cases asMembers
    simp [Json.member?, OrderedMap.find?] at given

end ReadmePress
