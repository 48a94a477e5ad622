import ReadmePress.Proofs.FileSystem.Writing
import ReadmePress.Proofs.Reading
import ReadmePress.Tools.Operation

/-!
The confirmed writing of a file. It either refills one file with the bytes of the content, adds
nothing else but directories above that file, and the file then reads as the content with its
line ends unified; or it fails, and all that may be new are directories above the target.
-/

namespace ReadmePress

open ReadmePress.Text

namespace Workspace

theorem read_bytes_of_arrive (workspace : Workspace) (path : Path) (location : Location)
    (content : List UInt8)
    (leads : workspace.arrive true path = .ok (.existing location))
    (holds : workspace.files.entryAt? location = some (.file content)) :
    workspace.readBytes path = .ok content := by
  have found := (Node.entry_at_eq_file_iff _ _ _).mp holds
  simp [readBytes, lookUp, leads, found, bind, Except.bind]

/-- What has been written as UTF-8 reads as the text that was meant, line ends apart. -/
theorem read_text_of_encoded (workspace : Workspace) (path : Path) (text : List Char)
    (holds : workspace.readBytes path = .ok (encodeUtf8 text)) :
    (workspace.readText path).outcome = .ok (some (unifyNewlines text)) := by
  rw [readText, holds]
  simp only
  rw [text_of_encoded]
  rfl

/-- The report of a confirmed writing. -/
def writtenReport (target : Path) (size : Nat) : String :=
  "已写入：" ++ target.text ++ "（" ++ toString size ++ " bytes）"

theorem confirmed_write_outcome (workspace : Workspace) (directory : Path)
    (path content : String) :
    (workspace.writeFile directory { path, content, confirm := true }).traced.outcome =
      match (workspace.writeText (writingTarget directory path) content).outcome with
      | .ok size => .ok (writtenReport (writingTarget directory path) size)
      | .error fault => .error (.file fault) := by
  cases outcome : (workspace.writeText (writingTarget directory path) content).outcome with
  | error fault =>
      have restated : (Except.error fault : Except FileFault Nat).mapError Failure.file =
        .error (.file fault) := rfl
      simp [writeFile, outcome, bind, Traced.bind, Traced.ofExcept, restated]
  | ok size =>
      have restated : (Except.ok size : Except FileFault Nat).mapError Failure.file = .ok size :=
        rfl
      simp [writeFile, outcome, bind, Traced.bind, Traced.ofExcept, Traced.record, pure,
        Traced.pure, restated, writtenReport]

theorem confirmed_write_files (workspace : Workspace) (directory : Path)
    (path content : String) :
    (workspace.writeFile directory { path, content, confirm := true }).files =
      (workspace.writeText (writingTarget directory path) content).files := by
  rfl

theorem confirmed_write_frame (workspace : Workspace) (directory : Path)
    (path content : String) :
    let effect := workspace.writeFile directory { path, content, confirm := true }
    let target := writingTarget directory path
    let after := workspace.withFiles effect.files
    let bytes := content.toUTF8.data.toList
    match effect.traced.outcome with
    | .ok report =>
        report = writtenReport target bytes.length ∧
          (∃ location, workspace.Written after target bytes location) ∧
          (after.readText target).outcome =
            .ok (some ((replace ['\r', '\n'] ['\n'] content.toList).map fun character =>
              if character = '\r' then '\n' else character))
    | .error _ => workspace.files.AddsOnly effect.files (after.IsAncestor target) := by
  intro effect target after bytes
  simp only [effect, after, bytes]
  rw [confirmed_write_outcome, confirmed_write_files, ← encode_eq_bytes, ← unify_newlines_eq]
  rcases write_text_cases workspace target content with
    ⟨fault, refused, adds⟩ | ⟨done, location, written⟩
  · rw [refused]
    exact adds
  · rw [done]
    have readBack := read_bytes_of_arrive _ target location _ written.leads written.holds
    exact ⟨rfl, ⟨location, written⟩, read_text_of_encoded _ target _ readBack⟩

end Workspace

end ReadmePress
