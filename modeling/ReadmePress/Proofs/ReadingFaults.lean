import ReadmePress.Proofs.FileSystem.Refusals
import ReadmePress.Proofs.Json.Depth
import ReadmePress.Proofs.Reading

/-!
Where a reading answers and what. Whether a file exists is always told. Texts, values and
manifests are read unless the path has a null character or JSON goes too deep, and a directory
is scanned unless its path is too long; whatever else is wrong, there is nothing to read.
-/

namespace ReadmePress

open ReadmePress.Text

/-- A computation gives this answer and no other where a condition holds, and fails elsewhere. -/
def AnswersWhere {Fault Value : Type} (condition : Prop) (outcome : Except Fault Value)
    (answer : Value) : Prop :=
  ∀ value, outcome = .ok value ↔ condition ∧ value = answer

namespace Workspace

/-- The selected paths below a directory, none where the path names no directory. -/
def listedBelow (workspace : Workspace) (root : Path) (selection : Selection) : List String :=
  match workspace.lookUp true root with
  | .ok (_, node) => SortedSet.ofList (selection.scanEntries "" node.entries)
  | .error _ => []

def RefusedAsTooLong (workspace : Workspace) (path : Path) : Prop :=
  workspace.lookUp true path = .error (.refused .nameTooLong path.text)

theorem scan_answers (workspace : Workspace) (root : Path) (selection : Selection) :
    AnswersWhere (¬ workspace.RefusedAsTooLong root) (workspace.scan root selection)
      (workspace.listedBelow root selection) := by
  intro paths
  unfold scan isDirectory ask listedBelow RefusedAsTooLong
  cases found : workspace.lookUp true root with
  | ok place =>
      obtain ⟨location, node⟩ := place
      cases node <;> simp [bind, Except.bind, Node.isDirectory, Node.entries, SortedSet.ofList,
        Selection.scanEntries, eq_comm]
  | error fault =>
      rcases look_up_refusal workspace true root fault found with
        rfl | ⟨refusal, rfl, meansAbsent | ⟨rfl, -⟩⟩
      · simp [bind, Except.bind, eq_comm]
      · have notLong : refusal ≠ .nameTooLong := by
          rintro rfl
          exact absurd meansAbsent Bool.false_ne_true
        simp [bind, Except.bind, meansAbsent, notLong, eq_comm]
      · simp [bind, Except.bind, Refusal.meansAbsent]

/-- What stops a scan is the length of the path or of a name that is met on its way. -/
theorem refused_as_too_long (workspace : Workspace) (path : Path)
    (refused : workspace.RefusedAsTooLong path) :
    pathLimit ≤ path.text.utf8ByteSize ∨
      ∃ name, IsOnWay workspace.files path.components name ∧ nameLimit < name.utf8ByteSize := by
  rcases look_up_refusal workspace true path _ refused with
    same | ⟨refusal, same, meansAbsent | ⟨-, tooLong⟩⟩
  · exact absurd same nofun
  · obtain ⟨rfl, -⟩ := FileFault.refused.inj same
    exact absurd meansAbsent Bool.false_ne_true
  · exact tooLong

/-- What stops the reading of a value is more open brackets than the reader follows. -/
theorem nests_too_deep (workspace : Workspace) (path : Path)
    (deep : workspace.NestsTooDeep path) :
    ∃ text, workspace.decodedText? path = some text ∧
      Json.nestingLimit < Json.deepest false 0 text := by
  obtain ⟨text, decoded, deep⟩ := deep
  exact ⟨text, decoded, Json.too_deep_opens text deep⟩

/-- Every path and every tree of files get an answer, but for three faults: a null character in
the path of what is to be read, JSON in which too many brackets are open, and a path or a name on
its way that is too long to be scanned. -/
theorem readings_answer (workspace : Workspace) (path : Path) (selection : Selection) :
    (workspace.fileExists path = true ↔ ∃ place, workspace.lookUp true path = .ok place) ∧
      AnswersWhere ('\x00' ∉ path.text.toList) (workspace.readText path).outcome
        (workspace.decodedText? path) ∧
      AnswersWhere ('\x00' ∉ path.text.toList ∧ ¬ workspace.NestsTooDeep path)
        (workspace.readJson path).outcome (workspace.parsedJson? path) ∧
      AnswersWhere
        ('\x00' ∉ path.text.toList ∧ ¬ workspace.NestsTooDeep (Manifest.pathIn path))
        (workspace.loadManifest path).outcome (workspace.manifestAt? path) ∧
      AnswersWhere (¬ workspace.RefusedAsTooLong path) (workspace.scan path selection)
        (workspace.listedBelow path selection) ∧
      (∀ file, workspace.NestsTooDeep file → ∃ text, workspace.decodedText? file = some text ∧
        Json.nestingLimit < Json.deepest false 0 text) ∧
      (workspace.RefusedAsTooLong path → pathLimit ≤ path.text.utf8ByteSize ∨
        ∃ name, IsOnWay workspace.files path.components name ∧
          nameLimit < name.utf8ByteSize) := by
  refine ⟨file_exists_iff workspace path, read_text_iff workspace path, ?_, ?_,
    scan_answers workspace path selection, nests_too_deep workspace,
    refused_as_too_long workspace path⟩
  · intro value
    rw [read_json_iff, and_assoc]
  · intro manifest
    rw [load_manifest_iff, null_in_manifest_path, and_assoc]

/-- A manifest file of opening brackets alone, more than the reader of JSON follows. -/
theorem brackets_alone_nest (count : Nat) (beyond : Json.nestingLimit < count) :
    (manifestAlone (List.replicate count '[')).NestsTooDeep (Path.ofString Manifest.fileName) := by
  have read : (manifestAlone (List.replicate count '[')).readBytes
      (Path.ofString Manifest.fileName) = .ok (encodeUtf8 (List.replicate count '[')) := rfl
  have noReturn : '\r' ∉ List.replicate count '[' := by
    intro member
    exact absurd (List.mem_replicate.mp member).2 (by decide)
  refine ⟨List.replicate count '[', ?_, ?_⟩
  · rw [decodedText?, read, Except.toOption, Option.bind_some,
      text_of_encoded_unified _ noReturn]
    rfl
  · have deep := Json.brackets_too_deep count [] beyond
    rwa [List.append_nil] at deep

/-- A long name is refused wherever it is looked up. -/
theorem long_name_refused (workspace : Workspace) (entries : List (String × Node))
    (root : workspace.files = .directory entries) (name : String)
    (noNull : '\x00' ∉ name.toList) (beyond : nameLimit < name.utf8ByteSize)
    (fits : name.utf8ByteSize + 1 < pathLimit) :
    workspace.RefusedAsTooLong (Path.ofLocation [name]) := by
  have text : (Path.ofLocation [name]).text = "/" ++ name := by
    simp [Path.text, Path.ofLocation, Path.rootText]
  have checked : checkedText (Path.ofLocation [name]) = .ok (Path.ofLocation [name]).text := by
    have size : ("/" ++ name).utf8ByteSize = name.utf8ByteSize + 1 := by
      rw [String.utf8ByteSize_append, Nat.add_comm]
      rfl
    rw [checked_text_iff, text, String.toList_append, List.mem_append, not_or, size]
    exact ⟨rfl, ⟨by decide, noNull⟩, fits⟩
  have notDot : name ≠ "." := by
    rintro rfl
    exact absurd beyond (by decide)
  have notDots : name ≠ ".." := by
    rintro rfl
    exact absurd beyond (by decide)
  have refused : stretch workspace.files true [] [name] = .refused .nameTooLong := by
    simp [stretch, root, Node.node?, notDot, notDots, beyond]
  have walked : walk workspace.files true linkLimit [] [name] = .error .nameTooLong := by
    rw [walk, refused]
  have isAbsolute : (Path.ofLocation [name]).isAbsolute = true := rfl
  have components : (Path.ofLocation [name]).components = [name] := rfl
  rw [RefusedAsTooLong, lookUp, arrive, checked]
  simp [bind, Except.bind, isAbsolute, components, walked]

/-- Each of the three faults stops a reading: a null character, brackets and a long name. -/
theorem readings_stopped :
    ((manifestAlone []).readText (Path.ofString "a\x00b")).outcome =
        .error (.file .embeddedNull) ∧
      ((manifestAlone (List.replicate 20000 '[')).readJson
        (Path.ofString Manifest.fileName)).outcome = .error .tooDeep ∧
      ∀ paths, (manifestAlone []).scan (Path.ofLocation [String.ofList (List.replicate 256 'a')])
          { globs := GlobSet.ofPatterns ["**/*"] [], listDirectories := false } ≠ .ok paths := by
  refine ⟨rfl, ?_, ?_⟩
  · obtain ⟨text, decoded, deep⟩ := brackets_alone_nest 20000 (by decide)
    rw [read_json_of_text _ _ (by decide), decoded, Option.map_some, deep]
  · have noNull : '\x00' ∉ (String.ofList (List.replicate 256 'a')).toList := by
      rw [String.toList_ofList]
      intro member
      exact absurd (List.mem_replicate.mp member).2 (by decide)
    have refused := long_name_refused (manifestAlone []) _ rfl _ noNull (by decide +kernel)
      (by decide +kernel)
    intro paths listed
    exact ((scan_answers _ _ _ paths).mp listed).1 refused

end Workspace

end ReadmePress
