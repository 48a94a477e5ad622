import ReadmePress.Facts.Manifest
import ReadmePress.Proofs.FileSystem.Resolution
import ReadmePress.Proofs.Outcome
import ReadmePress.Proofs.Text.Splitting
import ReadmePress.Proofs.Text.Utf8

/-!
What is read from files. A file that is missing, cannot be read or is no UTF-8 gives no text, and
text that is no JSON no value; only a path with a null character and JSON that is nested too deep
stop a reading.
-/

namespace ReadmePress

open ReadmePress.Text

section Null

theorem null_in_path (path : Path) (null : '\x00' ∈ path.text.toList) :
    ∃ component ∈ path.components, '\x00' ∈ component.toList := by
  rw [Path.text] at null
  split at null
  · exact absurd null (by decide)
  · rw [String.toList_append, List.mem_append, String.toList_intercalate] at null
    rcases null with inRoot | inComponents
    · cases root : path.root <;> rw [root] at inRoot <;> exact absurd inRoot (by decide)
    · rcases mem_of_intercalate _ _ _ inComponents with isSlash | ⟨characters, isPart, null⟩
      · exact absurd isSlash (by decide)
      · obtain ⟨component, member, rfl⟩ := List.mem_map.mp isPart
        exact ⟨component, member, null⟩

theorem null_in_component (path : Path) (component : String) (member : component ∈ path.components)
    (null : '\x00' ∈ component.toList) : '\x00' ∈ path.text.toList := by
  have isSome : path.components.isEmpty = false :=
    List.isEmpty_eq_false_iff.mpr (List.ne_nil_of_mem member)
  rw [Path.text, isSome, Bool.and_false, if_neg (by simp), String.toList_append,
    String.toList_intercalate]
  apply List.mem_append_right
  have occurs := infix_of_intercalate "/".toList component.toList
    (path.components.map String.toList) (List.mem_map_of_mem member)
  exact occurs.subset null

theorem null_in_components (text : String) (component : String)
    (member : component ∈ (Path.ofString text).components) (null : '\x00' ∈ component.toList) :
    '\x00' ∈ text.toList := by
  have isPart := (List.mem_filter.mp member).1
  obtain ⟨characters, isField, rfl⟩ := List.mem_map.mp isPart
  rw [split_eq_split_on] at isField
  rw [String.toList_ofList] at null
  exact (field_occurs '/' text.toList characters isField).subset null

/-- The manifest file's own name adds no null character to the path of its directory. -/
theorem null_in_manifest_path (directory : Path) :
    '\x00' ∈ (Manifest.pathIn directory).text.toList ↔ '\x00' ∈ directory.text.toList := by
  have components : (Manifest.pathIn directory).components =
      directory.components ++ [Manifest.fileName] := rfl
  constructor
  · intro null
    obtain ⟨component, member, null⟩ := null_in_path _ null
    rw [components] at member
    rcases List.mem_append.mp member with inDirectory | isName
    · exact null_in_component directory component inDirectory null
    · rw [List.mem_singleton.mp isName] at null
      exact absurd null (by decide)
  · intro null
    obtain ⟨component, member, null⟩ := null_in_path _ null
    exact null_in_component _ component
      (components ▸ List.mem_append_left [Manifest.fileName] member) null

end Null

namespace Workspace

section Texts

/-- What has been written as UTF-8 is the text that was meant, line ends apart. -/
theorem text_of_encoded (text : List Char) :
    textOfBytes (encodeUtf8 text) = .ok (unifyNewlines text) := by
  rw [textOfBytes, decode_encode]
  rfl

theorem text_of_encoded_unified (text : List Char) (noReturn : '\r' ∉ text) :
    textOfBytes (encodeUtf8 text) = .ok text := by
  rw [text_of_encoded, unify_newlines_of_no_return text noReturn]

/-- The text of a file that holds UTF-8. -/
def decodedText? (workspace : Workspace) (path : Path) : Option (List Char) :=
  (workspace.readBytes path).toOption.bind fun bytes => (textOfBytes bytes).toOption

theorem checked_text_null (path : Path) (refused : checkedText path = .error .embeddedNull) :
    '\x00' ∈ path.text.toList := by
  simp only [checkedText] at refused
  split at refused
  next null => simpa using null
  next => split at refused <;> simp at refused

theorem look_up_null (workspace : Workspace) (path : Path)
    (refused : workspace.lookUp true path = .error .embeddedNull) :
    '\x00' ∈ path.text.toList := by
  apply checked_text_null
  simp only [lookUp, arrive] at refused
  cases checked : checkedText path with
  | error fault => simpa [checked, bind, Except.bind] using refused
  | ok text =>
      exfalso
      simp only [checked, bind, Except.bind] at refused
      cases walked : walk workspace.files true linkLimit
          (if path.isAbsolute then [] else workspace.workingDirectory) path.components with
      | error refusal => simp [walked] at refused
      | ok arrival =>
          cases arrival with
          | missing directory name => simp [walked] at refused
          | existing location =>
              cases found : workspace.files.node? location <;> simp [walked, found] at refused

theorem read_bytes_null (workspace : Workspace) (path : Path)
    (refused : workspace.readBytes path = .error .embeddedNull) : '\x00' ∈ path.text.toList := by
  apply look_up_null workspace path
  simp only [readBytes] at refused
  cases found : workspace.lookUp true path with
  | error fault => simpa [found, bind, Except.bind] using refused
  | ok place =>
      obtain ⟨location, node⟩ := place
      cases node <;> simp [found, bind, Except.bind] at refused

/-- A file that cannot be read stops nothing, unless its path holds a null character. -/
theorem read_text_outcome (workspace : Workspace) (path : Path)
    (noNull : '\x00' ∉ path.text.toList) :
    (workspace.readText path).outcome = .ok (workspace.decodedText? path) := by
  rw [readText, decodedText?]
  cases read : workspace.readBytes path with
  | error fault =>
      cases fault with
      | embeddedNull => exact absurd (read_bytes_null workspace path read) noNull
      | refused refusal text => rfl
  | ok bytes =>
      cases decoded : textOfBytes bytes with
      | error error => simp [decoded, Except.toOption]; rfl
      | ok text => simp [decoded, Except.toOption]; rfl

theorem read_text_null (workspace : Workspace) (path : Path) (null : '\x00' ∈ path.text.toList) :
    (workspace.readText path).outcome = .error (.file .embeddedNull) := by
  have refused : workspace.readBytes path = .error .embeddedNull := by
    simp [readBytes, lookUp, arrive, checkedText, null, bind, Except.bind]
  rw [readText, refused]
  rfl

/-- A file is read exactly where its path holds no null character, and then as what it holds. -/
theorem read_text_iff (workspace : Workspace) (path : Path) (answer : Option (List Char)) :
    (workspace.readText path).outcome = .ok answer ↔
      '\x00' ∉ path.text.toList ∧ answer = workspace.decodedText? path := by
  by_cases null : '\x00' ∈ path.text.toList
  · rw [read_text_null workspace path null]
    simp [null]
  · rw [read_text_outcome workspace path null]
    simp [null, eq_comm]

end Texts

section Presence


theorem file_exists_no_null (workspace : Workspace) (path : Path)
    (present : workspace.fileExists path = true) : '\x00' ∉ path.text.toList := by
  intro null
  have refused : workspace.lookUp true path = .error .embeddedNull := by
    simp [lookUp, arrive, checkedText, null, bind, Except.bind]
  simp [fileExists, holds, ask, refused] at present

theorem file_exists_iff (workspace : Workspace) (path : Path) :
    workspace.fileExists path = true ↔ ∃ place, workspace.lookUp true path = .ok place := by
  unfold fileExists holds ask
  cases workspace.lookUp true path with
  | ok place => simp
  | error fault =>
      cases fault with
      | embeddedNull => simp
      | refused refusal text => cases meansAbsent : refusal.meansAbsent <;> simp [meansAbsent]

end Presence

section Values

/-- The value of a file that holds JSON. -/
def parsedJson? (workspace : Workspace) (path : Path) : Option Json :=
  (workspace.decodedText? path).bind fun text => (Json.parse text).toOption

/-- The text of the file goes deeper than a reader of JSON can follow. -/
def NestsTooDeep (workspace : Workspace) (path : Path) : Prop :=
  ∃ text, workspace.decodedText? path = some text ∧ Json.parse text = .error .tooDeep

theorem read_json_of_text (workspace : Workspace) (path : Path)
    (noNull : '\x00' ∉ path.text.toList) :
    (workspace.readJson path).outcome =
      match (workspace.decodedText? path).map Json.parse with
      | some (.error .tooDeep) => .error .tooDeep
      | _ => .ok (workspace.parsedJson? path) := by
  apply (Traced.bind_outcome _ _ _ (read_text_outcome workspace path noNull)).trans
  rw [parsedJson?]
  cases workspace.decodedText? path with
  | none => rfl
  | some text =>
      simp only [Option.map_some, Option.bind_some]
      cases parsed : Json.parse text with
      | ok value => rfl
      | error fault => cases fault <;> rfl

/-- A file is read as JSON exactly where its text can be and is not nested too deep. -/
theorem read_json_iff (workspace : Workspace) (path : Path) (answer : Option Json) :
    (workspace.readJson path).outcome = .ok answer ↔
      '\x00' ∉ path.text.toList ∧ ¬ workspace.NestsTooDeep path ∧
        answer = workspace.parsedJson? path := by
  by_cases null : '\x00' ∈ path.text.toList
  · have failed : (workspace.readJson path).outcome = .error (.file .embeddedNull) := by
      have refused := read_text_null workspace path null
      simp [readJson, bind, Traced.bind, refused]
    rw [failed]
    simp [null]
  · rw [read_json_of_text workspace path null, NestsTooDeep]
    cases workspace.decodedText? path with
    | none => simp [null, eq_comm]
    | some text =>
        cases parsed : Json.parse text with
        | ok value => simp [null, parsed, eq_comm]
        | error fault => cases fault <;> simp [null, parsed, eq_comm]

/-- The manifest of a directory whose manifest file holds an object. -/
def manifestAt? (workspace : Workspace) (directory : Path) : Option Manifest :=
  ((workspace.parsedJson? (Manifest.pathIn directory)).bind Json.members?).map Manifest.ofMembers

theorem load_manifest_iff (workspace : Workspace) (directory : Path) (answer : Option Manifest) :
    (workspace.loadManifest directory).outcome = .ok answer ↔
      '\x00' ∉ (Manifest.pathIn directory).text.toList ∧
        ¬ workspace.NestsTooDeep (Manifest.pathIn directory) ∧
          answer = workspace.manifestAt? directory := by
  constructor
  · intro loaded
    obtain ⟨value, read, taken⟩ := Traced.bind_ok _ _ _ loaded
    obtain ⟨noNull, shallow, rfl⟩ := (read_json_iff _ _ _).mp read
    exact ⟨noNull, shallow, (Except.ok.inj taken).symm⟩
  · rintro ⟨noNull, shallow, rfl⟩
    exact Traced.bind_outcome _ _ _ ((read_json_iff _ _ _).mpr ⟨noNull, shallow, rfl⟩)

/-- A project of a manifest file alone. -/
def manifestAlone (text : List Char) : Workspace :=
  { files := .directory [(Manifest.fileName, .file (encodeUtf8 text))]
    workingDirectory := []
    home := "/"
    accounts := [] }

end Values

end Workspace

end ReadmePress
