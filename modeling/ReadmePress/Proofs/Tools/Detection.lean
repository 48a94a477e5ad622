import Mathlib.Control.Monad.Basic
import ReadmePress.Proofs.Facts.ManifestSummary
import ReadmePress.Proofs.FileSystem.Ancestors
import ReadmePress.Proofs.Reading
import ReadmePress.Proofs.Tools.ConfirmedWrite

/-!
The summary of a project's manifest. Written as a manifest and loaded again it gives the same
manifest; where there is nothing to summarise one of two messages says why.
-/

namespace ReadmePress

open ReadmePress.Text

namespace Workspace

section Loading

/-- What a path leads to is not the text of a JSON object. -/
inductive HoldsNoObject (workspace : Workspace) (path : Path) : Prop where
  | unreadable (fault : FileFault) (refused : workspace.readBytes path = .error fault)
  | notUtf8 (bytes : List UInt8) (error : Utf8Error) (read : workspace.readBytes path = .ok bytes)
      (broken : textOfBytes bytes = .error error)
  | notJson (text : List Char) (fault : Json.Fault)
      (decoded : workspace.decodedText? path = some text) (broken : Json.parse text = .error fault)
  | notObject (text : List Char) (value : Json)
      (decoded : workspace.decodedText? path = some text) (parsed : Json.parse text = .ok value)
      (other : value.members? = none)

theorem manifest_at_some (workspace : Workspace) (directory : Path) (manifest : Manifest)
    (found : workspace.manifestAt? directory = some manifest) :
    ∃ text members, workspace.decodedText? (Manifest.pathIn directory) = some text ∧
      Json.parse text = .ok (.object members) ∧ Manifest.ofMembers members = manifest := by
  obtain ⟨members, isObject, taken⟩ := Option.map_eq_some_iff.mp found
  obtain ⟨value, parsed, isMembers⟩ := Option.bind_eq_some_iff.mp isObject
  obtain ⟨text, decoded, parsed⟩ := Option.bind_eq_some_iff.mp parsed
  cases value with
  | object inside =>
      obtain rfl := Option.some.inj isMembers
      exact ⟨text, inside, decoded, (to_option_some_iff _ _).mp parsed, taken⟩
  | _ => cases isMembers

theorem manifest_at_none_iff (workspace : Workspace) (directory : Path) :
    workspace.manifestAt? directory = none ↔
      workspace.HoldsNoObject (Manifest.pathIn directory) := by
  constructor
  · intro nothing
    cases read : workspace.readBytes (Manifest.pathIn directory) with
    | error fault => exact .unreadable fault read
    | ok bytes =>
        cases decoded : textOfBytes bytes with
        | error error => exact .notUtf8 bytes error read decoded
        | ok text =>
            have isText : workspace.decodedText? (Manifest.pathIn directory) = some text := by
              rw [decodedText?, read]
              exact (to_option_some_iff _ _).mpr decoded
            cases parsed : Json.parse text with
            | error fault => exact .notJson text fault isText parsed
            | ok value =>
                apply HoldsNoObject.notObject text value isText parsed
                rw [manifestAt?, parsedJson?, isText] at nothing
                simpa [parsed, Except.toOption] using nothing
  · intro noObject
    cases found : workspace.manifestAt? directory with
    | none => rfl
    | some manifest =>
        obtain ⟨text, members, decoded, parsed, -⟩ := manifest_at_some _ _ _ found
        exfalso
        cases noObject with
        | unreadable fault refused =>
            rw [decodedText?, refused] at decoded
            cases decoded
        | notUtf8 bytes error read broken =>
            rw [decodedText?, read] at decoded
            cases broken.symm.trans ((to_option_some_iff _ _).mp decoded)
        | notJson other fault same broken =>
            obtain rfl := Option.some.inj (decoded.symm.trans same)
            cases broken.symm.trans parsed
        | notObject other value same found isOther =>
            obtain rfl := Option.some.inj (decoded.symm.trans same)
            obtain rfl := Except.ok.inj (parsed.symm.trans found)
            cases isOther

/-- A file that holds the text of an object is loaded as its manifest. -/
theorem manifest_of_text (workspace : Workspace) (directory : Path) (text : String)
    (members : List (WideText × Json)) (noReturn : '\r' ∉ text.toList)
    (parsed : Json.parse text.toList = .ok (.object members))
    (holds : workspace.readBytes (Manifest.pathIn directory) = .ok (encodeUtf8 text.toList)) :
    (workspace.loadManifest directory).outcome = .ok (some (Manifest.ofMembers members)) := by
  have read := read_text_of_encoded workspace _ text.toList holds
  rw [unify_newlines_of_no_return _ noReturn] at read
  obtain ⟨noNull, decoded⟩ := (read_text_iff _ _ _).mp read
  refine (load_manifest_iff _ _ _).mpr ⟨noNull, ?_, ?_⟩
  · rintro ⟨other, same, deep⟩
    obtain rfl := Option.some.inj (decoded.trans same)
    cases parsed.symm.trans deep
  · have value : workspace.parsedJson? (Manifest.pathIn directory) = some (.object members) := by
      rw [parsedJson?, ← decoded]
      exact (to_option_some_iff _ _).mpr parsed
    rw [manifestAt?, value]
    rfl

end Loading

section Writing

theorem read_bytes_of_written (workspace : Workspace) (path : Path) (text : String) (size : Nat)
    (written : (workspace.writeText path text).outcome = .ok size) :
    (workspace.withFiles (workspace.writeText path text).files).readBytes path =
      .ok (encodeUtf8 text.toList) := by
  obtain ⟨location, overwritable, holds⟩ := overwritable_of_written workspace path text size written
  exact (read_bytes_ok_iff _ _ _).mpr
    ⟨location, (look_up_ok_iff _ _ _ _ _).mpr ⟨overwritable.leads, holds⟩⟩

/-- A manifest that has been loaded has no name twice in a map. -/
theorem loaded_maps_distinct (workspace : Workspace) (directory : Path) (manifest : Manifest)
    (loaded : (workspace.loadManifest directory).outcome = .ok (some manifest)) :
    ∀ map ∈ manifest.maps, (OrderedMap.keys map).Nodup := by
  obtain ⟨-, -, found⟩ := (load_manifest_iff _ _ _).mp loaded
  obtain ⟨text, members, -, parsed, rfl⟩ := manifest_at_some _ _ _ found.symm
  exact Manifest.maps_distinct members (Json.parse_distinct text _ parsed)

/-- Where a manifest has been loaded its file exists and can be written. -/
theorem loaded_overwritable (workspace : Workspace) (directory : Path) (manifest : Manifest)
    (loaded : (workspace.loadManifest directory).outcome = .ok (some manifest)) :
    workspace.fileExists (Manifest.pathIn directory) = true ∧
      ∃ location, workspace.Overwritable (Manifest.pathIn directory) location := by
  obtain ⟨-, -, found⟩ := (load_manifest_iff _ _ _).mp loaded
  obtain ⟨text, members, decoded, -, -⟩ := manifest_at_some _ _ _ found.symm
  obtain ⟨bytes, read, -⟩ := Option.bind_eq_some_iff.mp decoded
  have read := (to_option_some_iff _ _).mp read
  constructor
  · obtain ⟨location, present⟩ := (read_bytes_ok_iff _ _ _).mp read
    exact (file_exists_iff _ _).mpr ⟨_, present⟩
  · exact overwritable_of_read workspace directory Manifest.fileName bytes read

end Writing

section Messages

def notFoundText (file : Path) : String := "未找到 " ++ file.text

def unparsableText (file : Path) : String := "无法解析 " ++ file.text

theorem messages_start (file : Path) :
    (notFoundText file).toList.head? = some '未' ∧
      (unparsableText file).toList.head? = some '无' := by
  constructor
  · rw [notFoundText, String.toList_append, List.head?_append]
    rfl
  · rw [unparsableText, String.toList_append, List.head?_append]
    rfl

theorem summary_starts (manifest : Manifest) (text : String)
    (written : (summaryText manifest).outcome = .ok text) : text.toList.head? = some '{' := by
  rw [summaryText] at written
  split at written
  next plain same =>
    obtain rfl := Except.ok.inj written
    have whole := (WideText.toString?_eq_some_iff _ _).mp same
    have characters := congrArg WideText.characters whole
    rw [WideText.ofString, characters_of_chars] at characters
    rw [← characters]
    rfl
  next => cases written

variable (workspace : Workspace) (arguments : DetectArguments) (directory : Path)
  (asked : workspace.directoryOr arguments.directory = directory)

include asked

theorem detect_absent (absent : workspace.fileExists (Manifest.pathIn directory) = false) :
    (workspace.detect arguments).outcome = .ok (notFoundText (Manifest.pathIn directory)) := by
  simp only [detect, asked, absent]
  rfl

/-- Where the manifest file exists the answer follows from what is loaded. -/
theorem detect_present (present : workspace.fileExists (Manifest.pathIn directory) = true) :
    (workspace.detect arguments).outcome =
      match (workspace.loadManifest directory).outcome with
      | .error fault => .error (.ofReading fault)
      | .ok none => .ok (unparsableText (Manifest.pathIn directory))
      | .ok (some manifest) => (summaryText manifest).outcome := by
  simp only [detect, asked, present]
  cases loaded : (workspace.loadManifest directory).outcome with
  | error fault => simp [bind, Traced.bind, Traced.mapFault, loaded, Except.mapError]
  | ok found =>
      have restated : ((workspace.loadManifest directory).mapFault Failure.ofReading).outcome =
          .ok found := by
        rw [Traced.mapFault, loaded]
        rfl
      apply (Traced.bind_outcome _ _ _ restated).trans
      cases found <;> rfl

/-- What is answered where nothing fails: which of the two messages, or the summary. -/
theorem detect_cases (text : String) (answers : (workspace.detect arguments).outcome = .ok text) :
    (workspace.fileExists (Manifest.pathIn directory) = false ∧
        text = notFoundText (Manifest.pathIn directory)) ∨
      workspace.fileExists (Manifest.pathIn directory) = true ∧
        ((workspace.manifestAt? directory = none ∧
            text = unparsableText (Manifest.pathIn directory)) ∨
          ∃ manifest, workspace.manifestAt? directory = some manifest ∧
            (summaryText manifest).outcome = .ok text) := by
  cases present : workspace.fileExists (Manifest.pathIn directory) with
  | false =>
      rw [detect_absent workspace arguments directory asked present] at answers
      exact Or.inl ⟨rfl, (Except.ok.inj answers).symm⟩
  | true =>
      rw [detect_present workspace arguments directory asked present] at answers
      cases loaded : (workspace.loadManifest directory).outcome with
      | error fault => simp [loaded] at answers
      | ok found =>
          obtain ⟨-, -, same⟩ := (load_manifest_iff _ _ _).mp loaded
          rw [loaded] at answers
          cases found with
          | none => exact Or.inr ⟨rfl, Or.inl ⟨same.symm, (Except.ok.inj answers).symm⟩⟩
          | some manifest => exact Or.inr ⟨rfl, Or.inr ⟨manifest, same.symm, answers⟩⟩

/-- The two messages and the beginning of a summary tell the three answers apart. -/
theorem message_cases (text : String) (answers : (workspace.detect arguments).outcome = .ok text) :
    (text = notFoundText (Manifest.pathIn directory) ↔
        workspace.fileExists (Manifest.pathIn directory) = false) ∧
      (text = unparsableText (Manifest.pathIn directory) ↔
        workspace.fileExists (Manifest.pathIn directory) = true ∧
          workspace.manifestAt? directory = none) := by
  obtain ⟨notFound, unparsable⟩ := messages_start (Manifest.pathIn directory)
  rcases detect_cases workspace arguments directory asked text answers with
    ⟨absent, rfl⟩ | ⟨present, ⟨nothing, rfl⟩ | ⟨manifest, found, written⟩⟩
  · have different : notFoundText (Manifest.pathIn directory) ≠
        unparsableText (Manifest.pathIn directory) := by
      intro same
      rw [same, unparsable] at notFound
      exact absurd notFound (by decide)
    simp [absent, different]
  · have different : unparsableText (Manifest.pathIn directory) ≠
        notFoundText (Manifest.pathIn directory) := by
      intro same
      rw [same, notFound] at unparsable
      exact absurd unparsable (by decide)
    simp [present, nothing, different]
  · have starts := summary_starts manifest text written
    have noMessage : text ≠ notFoundText (Manifest.pathIn directory) := by
      rintro rfl
      exact absurd (notFound.symm.trans starts) (by decide)
    have noFault : text ≠ unparsableText (Manifest.pathIn directory) := by
      rintro rfl
      exact absurd (unparsable.symm.trans starts) (by decide)
    simp [present, found, noMessage, noFault]

end Messages

/-- Where a manifest is found and no text in it holds a surrogate, the answer is an object of the
eight fields of a summary, and written as a manifest, there or anywhere else, it is loaded as the
same manifest. Elsewhere, where nothing fails, the answer says that there is no file exactly when
there is none, and that it cannot be understood exactly when it holds no object. -/
theorem detected_summary_is_manifest (workspace : Workspace) (arguments : DetectArguments) :
    let directory := workspace.directoryOr arguments.directory
    let file := Manifest.pathIn directory
    (∀ manifest, (workspace.loadManifest directory).outcome = .ok (some manifest) →
      (∀ text ∈ manifest.texts, text.HoldsNoSurrogate) →
        ∃ text members, (workspace.detect arguments).outcome = .ok text ∧
          Json.parse text.toList = .ok (.object members) ∧
          members.map Prod.fst = Manifest.fieldNames.map WideText.ofString ∧
          (∃ size, (workspace.writeText file text).outcome = .ok size) ∧
          ∀ (other : Workspace) (place : Path) (size : Nat),
            (other.writeText (Manifest.pathIn place) text).outcome = .ok size →
              ((other.withFiles (other.writeText (Manifest.pathIn place) text).files).loadManifest
                place).outcome = .ok (some manifest)) ∧
    ∀ text, (workspace.detect arguments).outcome = .ok text →
      (text = notFoundText file ↔ ¬ ∃ place, workspace.lookUp true file = .ok place) ∧
      (text = unparsableText file ↔
        (∃ place, workspace.lookUp true file = .ok place) ∧ workspace.HoldsNoObject file) := by
  intro directory file
  constructor
  · intro manifest loaded plain
    have distinct := loaded_maps_distinct workspace directory manifest loaded
    obtain ⟨present, location, overwritable⟩ :=
      loaded_overwritable workspace directory manifest loaded
    obtain ⟨text, written, noReturn, parsed⟩ := manifest.written_summary distinct plain
    refine ⟨text, manifest.summaryMembers, ?_, parsed, manifest.summary_names, ?_, ?_⟩
    · rw [detect_present workspace arguments directory rfl present, loaded]
      simp only [summaryText, written]
      rfl
    · exact ⟨_, congrArg Change.outcome (write_text_over workspace file location overwritable text)⟩
    · intro other place size done
      have holds := read_bytes_of_written other _ text size done
      rw [manifest_of_text _ place text _ noReturn parsed holds, manifest.summary_manifest]
  · intro text answers
    obtain ⟨notFound, unparsable⟩ := message_cases workspace arguments directory rfl text answers
    rw [← file_exists_iff, ← manifest_at_none_iff, Bool.not_eq_true]
    exact ⟨notFound, unparsable⟩

/-- A manifest whose fields are no texts and whose map repeats a name. -/
def coercedText : String :=
  "\x7b\"name\": true, \"version\": 7, \"scripts\":
    \x7b\"b\": [null, \"\\t\"], \"a\\\"\\n\": \"é\", \"b\": \x7b\"c\": [-0]\x7d\x7d\x7d"

def coercedProject : Workspace := manifestAlone coercedText.toList

def coercedManifest : Manifest :=
  { name := some (WideText.ofString "True")
    version := some (WideText.ofString "7")
    description := none
    scripts := some
      [(WideText.ofString "b", WideText.ofString "\x7b'c': [0]\x7d"),
        (WideText.ofString "a\"\n", WideText.ofString "é")]
    dependencies := none
    devDependencies := none
    license := none
    engines := none }

theorem coerced_summary_is_manifest :
    (coercedProject.loadManifest (Path.ofLocation [])).outcome = .ok (some coercedManifest) ∧
      (∀ text ∈ coercedManifest.texts, text.HoldsNoSurrogate) ∧
      ∃ text members,
        (coercedProject.detect { directory := none }).outcome = .ok text ∧
          Json.parse text.toList = .ok (.object members) ∧
          members.map Prod.fst = Manifest.fieldNames.map WideText.ofString ∧
          ((coercedProject.withFiles (coercedProject.writeText
            (Manifest.pathIn (Path.ofLocation [])) text).files).loadManifest
              (Path.ofLocation [])).outcome = .ok (some coercedManifest) := by
  have loaded : (coercedProject.loadManifest (Path.ofLocation [])).outcome =
      .ok (some coercedManifest) := by
    decide +kernel
  have plain : ∀ text ∈ coercedManifest.texts, text.HoldsNoSurrogate := by
    have texts : coercedManifest.texts =
        ["True", "7", "b", "\x7b'c': [0]\x7d", "a\"\n", "é"].map WideText.ofString := rfl
    rw [texts]
    intro text member
    obtain ⟨string, -, rfl⟩ := List.mem_map.mp member
    exact (no_surrogate_iff _).mpr ⟨string.toList, rfl⟩
  obtain ⟨text, members, answers, parsed, names, ⟨size, done⟩, again⟩ :=
    (detected_summary_is_manifest coercedProject { directory := none }).1
      coercedManifest loaded plain
  exact ⟨loaded, plain, text, members, answers, parsed, names, again _ _ size done⟩

end Workspace

end ReadmePress
