import ReadmePress.Proofs.CommandLine.FullDocument
import ReadmePress.Proofs.Service.Invocation

/-!
The ways to a tool. A request to the service and the command for the full document come to what
the tool itself comes to on the same values. Only the issues of refused arguments may get lost on
the way: where the input of one cannot be written in JSON, the service fails to tell them.
-/

namespace ReadmePress

open ReadmePress.Text

/-- The service and the command do as the tools do. -/
theorem entry_points_agree (workspace : Workspace) :
    (∀ request name members, request.Invokes name members →
      match Tool.ofName? name with
      | some tool => Service.Conveys workspace members tool (Service.answer workspace request)
      | none => Service.answer workspace request =
          { response := .detail 404 ("Unknown tool: " ++ name)
            records := []
            files := workspace.files }) ∧
      ∀ line settings serviceFault, Command.read line = .ok (.full, settings) →
        Command.Delivers workspace settings (Command.runLine workspace serviceFault line) := by
  constructor
  · intro request name members invokes
    cases known : Tool.ofName? name with
    | some tool => exact Service.answer_conveys workspace request name members invokes tool known
    | none => exact Service.unknown_name_answer workspace request name members invokes known
  · intro line settings serviceFault asRead
    exact Command.run_line_delivers workspace settings line serviceFault asRead

/-- A request for the short document. -/
def shortRequest (body : String) : HttpRequest :=
  { verb := "POST"
    path := "/tools/generateReadme"
    contentType := "application/json"
    body := body.toList }

/-- The arguments of a short document that has only a name. -/
def nameMember (name : WideText) : Members := [(WideText.ofString "name", .string name)]

def emptyWorkspace : Workspace :=
  { files := .directory [], workingDirectory := [], home := "/", accounts := [] }

/-- A line that writes the full document. -/
def writingLine : List String := ["pro", "--name", "demo", "--output", "out.md", "--confirm"]

theorem demo_entry_points_agree :
    (shortRequest "\x7b\"name\": \"demo\"\x7d").Invokes "generateReadme"
        (nameMember (WideText.ofString "demo")) ∧
      Service.Conveys emptyWorkspace (nameMember (WideText.ofString "demo")) .short
        (Service.answer emptyWorkspace (shortRequest "\x7b\"name\": \"demo\"\x7d")) ∧
      (∃ settings, Command.read ["pro", "--name", "demo"] = .ok (.full, settings) ∧
        settings.outputPath? = none ∧
        Command.Delivers emptyWorkspace settings
          (Command.runLine emptyWorkspace none ["pro", "--name", "demo"])) ∧
      ∃ settings, Command.read writingLine = .ok (.full, settings) ∧
        settings.outputPath? = some "out.md" ∧ settings.confirm = true ∧
        Command.Delivers emptyWorkspace settings
          (Command.runLine emptyWorkspace none writingLine) := by
  have invokes : (shortRequest "\x7b\"name\": \"demo\"\x7d").Invokes "generateReadme"
      (nameMember (WideText.ofString "demo")) :=
    { verb := rfl, path := by decide +kernel, body := rfl }
  have known : Tool.ofName? "generateReadme" = some .short := by decide +kernel
  obtain ⟨shown, asShown, noPath⟩ :
      ∃ settings, Command.read ["pro", "--name", "demo"] = .ok (.full, settings) ∧
        settings.outputPath? = none := ⟨_, rfl, rfl⟩
  obtain ⟨written, asWritten, path, confirmed⟩ :
      ∃ settings, Command.read writingLine = .ok (.full, settings) ∧
        settings.outputPath? = some "out.md" ∧ settings.confirm = true := ⟨_, rfl, rfl, rfl⟩
  obtain ⟨conveys, delivers⟩ := entry_points_agree emptyWorkspace
  have told := conveys _ _ _ invokes
  rw [known] at told
  exact ⟨invokes, told, ⟨shown, asShown, noPath, delivers _ shown none asShown⟩,
    written, asWritten, path, confirmed, delivers _ written none asWritten⟩

/-- Arguments are refused for a lone surrogate, and the response does not say so. -/
theorem lone_surrogate_is_not_told :
    (shortRequest "\x7b\"name\": \"\\ud800\"\x7d").Invokes "generateReadme"
        (nameMember [.surrogate 0]) ∧
      Tool.short.refusal? (nameMember [.surrogate 0]) =
        some [{ location := [.field "name"]
                kind := .illFormedText
                input := .string [.surrogate 0] }] ∧
      (Service.answer emptyWorkspace (shortRequest "\x7b\"name\": \"\\ud800\"\x7d")).response =
        .internalError ∧
      HttpResponse.internalError.status ≠ 422 := by
  have invokes : (shortRequest "\x7b\"name\": \"\\ud800\"\x7d").Invokes "generateReadme"
      (nameMember [.surrogate 0]) :=
    { verb := rfl, path := by decide +kernel, body := rfl }
  have refused : Tool.short.refusal? (nameMember [.surrogate 0]) =
      some [{ location := [.field "name"]
              kind := .illFormedText
              input := .string [.surrogate 0] }] := by
    rfl
  have known : Tool.ofName? "generateReadme" = some .short := by decide +kernel
  have response :=
    Service.refused_response emptyWorkspace _ _ _ invokes .short known _ refused
  refine ⟨invokes, refused, ?_, by decide⟩
  rw [response]
  exact if_neg (by decide)

end ReadmePress
