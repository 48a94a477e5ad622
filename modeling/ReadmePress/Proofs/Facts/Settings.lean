import Mathlib.Control.Monad.Basic
import ReadmePress.Proofs.Facts.SettingsValues
import ReadmePress.Proofs.FileSystem.Resolution
import ReadmePress.Proofs.Reading

/-!
Loading settings. A text that has a value gives valid settings, or is refused, exactly as its
value says, except where the text is taken for an empty one or an integer in it cannot be
written. A document does without broken settings, unless their place cannot be found, or a value
in their file breaks a rule of its kind, or an integer in it cannot be written.
-/

namespace ReadmePress

open ReadmePress.Number ReadmePress.Text

/-- A file that says what no settings say is done without. -/
theorem SettingsFault.absorbed_of_rejection (fault : SettingsFault)
    (rejection : fault.isRejection = true) : fault.isAbsorbed = true := by
  cases fault <;> first | rfl | exact absurd rejection Bool.false_ne_true

namespace Settings

/-- What a text says can be told: it says nothing, or it is no document at all, or its values
keep the rules of their kinds and no integer is to be written that cannot be. -/
def CanBeTold (text : List Char) : Prop :=
  trim text = [] ∨
    match Yaml.Document.ofText text with
    | .error fault => fault = .malformed
    | .ok document => ¬ AsksForOverlong text document

/-- A text that can be told gives valid settings or is refused, and any other fails. -/
theorem of_text_told_cases (root : Path) (fileName : String) (text : List Char) :
    (CanBeTold text ∧ ∃ settings, ofText root fileName text = .ok settings ∧ settings.IsValid) ∨
      (CanBeTold text ∧
        ∃ fault, ofText root fileName text = .error fault ∧ fault.isRejection = true) ∨
      (¬ CanBeTold text ∧
        ∃ fault, ofText root fileName text = .error fault ∧ fault.isAbsorbed = false) := by
  by_cases blank : trim text = []
  · have read : ofText root fileName text = .ok (default root) := by
      simp [ofText, blank]
    exact Or.inl ⟨Or.inl blank, _, read, default_is_valid root⟩
  cases parsed : Yaml.Document.ofText text with
  | error fault =>
      have told : CanBeTold text ↔ fault = .malformed := by
        simp [CanBeTold, blank, parsed]
      by_cases malformed : fault = .malformed
      · have read : ofText root fileName text = .error (.malformed fileName) := by
          simp [ofText, blank, parsed, malformed]
        exact Or.inr (Or.inl ⟨told.mpr malformed, _, read, rfl⟩)
      · have read : ofText root fileName text = .error (.value fault) := by
          cases fault <;> first | exact absurd rfl malformed | simp [ofText, blank, parsed]
        exact Or.inr (Or.inr ⟨fun isTold => malformed (told.mp isTold), _, read, rfl⟩)
  | ok document =>
      have told : CanBeTold text ↔ ¬ AsksForOverlong text document := by
        simp [CanBeTold, blank, parsed]
      rw [told, Classical.not_not]
      rcases of_text_cases root fileName text document parsed with
        ⟨short, -, -, read⟩ | ⟨long, -, read⟩ | ⟨short, -, -, refused⟩ | ⟨short, -, given⟩
      · exact Or.inl ⟨short, _, read, default_is_valid root⟩
      · exact Or.inr (Or.inr ⟨long, _, read, rfl⟩)
      · exact Or.inr (Or.inl ⟨short, refused⟩)
      · exact Or.inl ⟨short, given⟩

end Settings

namespace Workspace

/-- The canonical places that a path leads to: a settings file and the directory around it. -/
structure SettingsPlace (workspace : Workspace) (path file root : Path) : Prop where
  leadsToFile : workspace.settingsFile path = .ok file
  leadsToRoot : workspace.canonical file.parent = .ok root

/-- A file can be read, and holds this text. -/
def HoldsText (workspace : Workspace) (file : Path) (text : List Char) : Prop :=
  ∃ bytes, workspace.readBytes file = .ok bytes ∧ textOfBytes bytes = .ok text

/-- A file is there and has bytes, or it has none: then it is absent, or a refusal says why it
is not known whether it is there or why it cannot be read. -/
theorem bytes_cases (workspace : Workspace) (file : Path) :
    (∃ bytes, workspace.readBytes file = .ok bytes ∧ workspace.holds file = .ok true) ∨
      ((∀ bytes, workspace.readBytes file ≠ .ok bytes) ∧
        ((∃ refusal text, workspace.holds file = .error (.refused refusal text)) ∨
          workspace.holds file = .ok false ∨
          (workspace.holds file = .ok true ∧
            workspace.readBytes file = .error (.refused .isDirectory file.text)))) := by
  cases found : workspace.lookUp true file with
  | error fault =>
      have noBytes : ∀ bytes, workspace.readBytes file ≠ .ok bytes := by
        intro bytes
        simp [readBytes, found, bind, Except.bind]
      refine Or.inr ⟨noBytes, ?_⟩
      cases fault with
      | embeddedNull => exact Or.inr (Or.inl (by simp [holds, ask, found]))
      | refused refusal text =>
          by_cases absent : refusal.meansAbsent = true
          · exact Or.inr (Or.inl (by simp [holds, ask, found, absent]))
          · exact Or.inl ⟨refusal, text, by simp [holds, ask, found, absent]⟩
  | ok place =>
      obtain ⟨location, node⟩ := place
      have present : workspace.holds file = .ok true := by
        simp [holds, ask, found]
      have noContent : (∀ content, node ≠ .file content) →
          workspace.readBytes file = .error (.refused .isDirectory file.text) := by
        intro isNoFile
        cases node with
        | file content => exact absurd rfl (isNoFile content)
        | link target => simp [readBytes, found, bind, Except.bind]
        | directory entries => simp [readBytes, found, bind, Except.bind]
      by_cases isFile : ∃ content, node = .file content
      · obtain ⟨content, rfl⟩ := isFile
        exact Or.inl ⟨content, by simp [readBytes, found, bind, Except.bind], present⟩
      · have refused := noContent (not_exists.mp isFile)
        exact Or.inr ⟨by simp [refused], Or.inr (Or.inr ⟨present, refused⟩)⟩

section

variable (workspace : Workspace) (path file root : Path)

/-- Loading settings from a place that is found comes to the bytes of the file there. -/
theorem load_settings_at (place : workspace.SettingsPlace path file root) :
    workspace.loadSettings path =
      match workspace.holds file with
      | .error fault => .error (.file fault)
      | .ok false => .ok (Settings.default root)
      | .ok true =>
          match workspace.readBytes file with
          | .error fault => .error (.file fault)
          | .ok bytes =>
              match textOfBytes bytes with
              | .error error => .error (.notUtf8 file.name error)
              | .ok text => Settings.ofText root file.name text := by
  have mappedFile := (map_error_ok_iff SettingsFault.canonical _ _).mpr place.leadsToFile
  have mappedRoot := (map_error_ok_iff SettingsFault.canonical _ _).mpr place.leadsToRoot
  rw [loadSettings, mappedFile]
  simp only [bind, Except.bind, mappedRoot]
  cases workspace.holds file with
  | error fault => rfl
  | ok present =>
      cases present with
      | false => rfl
      | true =>
          cases workspace.readBytes file with
          | error fault => rfl
          | ok bytes => rfl

theorem load_settings_of_text (text : List Char)
    (place : workspace.SettingsPlace path file root) (held : workspace.HoldsText file text) :
    workspace.loadSettings path = Settings.ofText root file.name text := by
  obtain ⟨bytes, read, decoded⟩ := held
  have present : workspace.holds file = .ok true := by
    rcases workspace.bytes_cases file with ⟨-, -, present⟩ | ⟨noBytes, -⟩
    · exact present
    · exact absurd read (noBytes bytes)
  rw [load_settings_at workspace path file root place]
  simp only [present, read, decoded]

/-- Where no text is held a fault is absorbed, or the file is absent and the default is taken. -/
theorem load_settings_without_text (place : workspace.SettingsPlace path file root)
    (noText : ∀ text, ¬ workspace.HoldsText file text) :
    (∃ fault, workspace.loadSettings path = .error fault ∧ fault.isAbsorbed = true) ∨
      workspace.loadSettings path = .ok (Settings.default root) := by
  rw [load_settings_at workspace path file root place]
  rcases workspace.bytes_cases file with
    ⟨bytes, read, present⟩ | ⟨-, ⟨refusal, text, unknown⟩ | absent | ⟨present, refused⟩⟩
  · simp only [present, read]
    cases decoded : textOfBytes bytes with
    | error error => exact Or.inl ⟨_, rfl, rfl⟩
    | ok text => exact absurd ⟨bytes, read, decoded⟩ (noText text)
  · simp only [unknown]
    exact Or.inl ⟨_, rfl, rfl⟩
  · simp only [absent]
    exact Or.inr trivial
  · simp only [present, refused]
    exact Or.inl ⟨_, rfl, rfl⟩

end

/-- The place of the settings is found, and a text there can be told. -/
def CanTellSettings (workspace : Workspace) (path : Path) : Prop :=
  ∃ file root, workspace.SettingsPlace path file root ∧
    ∀ text, workspace.HoldsText file text → Settings.CanBeTold text

/-- No two places are the place of the settings of one path. -/
theorem settings_place_unique (workspace : Workspace) (path file root other otherRoot : Path)
    (place : workspace.SettingsPlace path file root)
    (otherPlace : workspace.SettingsPlace path other otherRoot) : other = file := by
  have same := otherPlace.leadsToFile.symm.trans place.leadsToFile
  exact Except.ok.inj same

theorem held_text_unique (workspace : Workspace) (file : Path) (text other : List Char)
    (held : workspace.HoldsText file text) (otherHeld : workspace.HoldsText file other) :
    other = text := by
  obtain ⟨bytes, read, decoded⟩ := held
  obtain ⟨otherBytes, otherRead, otherDecoded⟩ := otherHeld
  cases otherRead.symm.trans read
  exact Except.ok.inj (otherDecoded.symm.trans decoded)

/-- Loading settings whose place is not found fails for it. -/
theorem load_settings_nowhere (workspace : Workspace) (path : Path)
    (nowhere : ∀ file root, ¬ workspace.SettingsPlace path file root) :
    ∃ fault, workspace.loadSettings path = .error (.canonical fault) := by
  cases found : workspace.settingsFile path with
  | error fault => exact ⟨fault, by simp [loadSettings, found, Except.mapError, bind, Except.bind]⟩
  | ok file =>
      cases above : workspace.canonical file.parent with
      | error fault =>
          exact ⟨fault, by simp [loadSettings, found, above, Except.mapError, bind, Except.bind]⟩
      | ok root => exact absurd { leadsToFile := found, leadsToRoot := above } (nowhere file root)

/-- Settings that can be told are valid, or a fault that is absorbed stands for them; for any
other a fault is passed on. -/
theorem load_settings_cases (workspace : Workspace) (path : Path) :
    (workspace.CanTellSettings path ∧
        ∃ settings, workspace.loadSettings path = .ok settings ∧ settings.IsValid) ∨
      (workspace.CanTellSettings path ∧
        ∃ fault, workspace.loadSettings path = .error fault ∧ fault.isAbsorbed = true) ∨
      (¬ workspace.CanTellSettings path ∧
        ∃ fault, workspace.loadSettings path = .error fault ∧ fault.isAbsorbed = false) := by
  by_cases found : ∃ file root, workspace.SettingsPlace path file root
  case neg =>
    have nowhere : ∀ file root, ¬ workspace.SettingsPlace path file root := by
      intro file root place
      exact found ⟨file, root, place⟩
    obtain ⟨fault, failed⟩ := workspace.load_settings_nowhere path nowhere
    refine Or.inr (Or.inr ⟨?_, _, failed, rfl⟩)
    rintro ⟨file, root, place, -⟩
    exact nowhere file root place
  obtain ⟨file, root, place⟩ := found
  by_cases someText : ∃ text, workspace.HoldsText file text
  · obtain ⟨text, held⟩ := someText
    have told : workspace.CanTellSettings path ↔ Settings.CanBeTold text := by
      constructor
      · rintro ⟨other, otherRoot, otherPlace, tells⟩
        have same := settings_place_unique workspace path file root other otherRoot place otherPlace
        rw [same] at tells
        exact tells text held
      · intro canBeTold
        refine ⟨file, root, place, fun other otherHeld => ?_⟩
        rw [held_text_unique workspace file text other held otherHeld]
        exact canBeTold
    rw [told, workspace.load_settings_of_text path file root text place held]
    rcases Settings.of_text_told_cases root file.name text with
      given | ⟨canBeTold, fault, read, rejection⟩ | failed
    · exact Or.inl given
    · exact Or.inr (Or.inl ⟨canBeTold, fault, read, fault.absorbed_of_rejection rejection⟩)
    · exact Or.inr (Or.inr failed)
  · have noText := not_exists.mp someText
    have told : workspace.CanTellSettings path :=
      ⟨file, root, place, fun text held => absurd held (noText text)⟩
    rcases workspace.load_settings_without_text path file root place noText with absorbed | absent
    · exact Or.inr (Or.inl ⟨told, absorbed⟩)
    · exact Or.inl ⟨told, _, absent, Settings.default_is_valid root⟩

/-- A directory has settings exactly when they can be told, and so it is exactly when every
fault of loading them is absorbed; the settings it has are valid. -/
theorem broken_settings_absorbed (workspace : Workspace) (directory : Path) :
    ((∃ settings, (workspace.directorySettings directory).outcome = .ok settings) ↔
        workspace.CanTellSettings directory) ∧
      ((∀ fault, workspace.loadSettings directory = .error fault → fault.isAbsorbed = true) ↔
        workspace.CanTellSettings directory) ∧
      ∀ settings, (workspace.directorySettings directory).outcome = .ok settings →
        settings.IsValid := by
  rcases workspace.load_settings_cases directory with
    ⟨told, settings, loaded, valid⟩ | ⟨told, fault, failed, absorbed⟩ |
      ⟨untold, fault, failed, passedOn⟩
  · have had : (workspace.directorySettings directory).outcome = .ok settings := by
      simp only [directorySettings, loaded]
      rfl
    refine ⟨iff_of_true ⟨settings, had⟩ told, iff_of_true (by simp [loaded]) told, ?_⟩
    intro other same
    cases had.symm.trans same
    exact valid
  · have had : (workspace.directorySettings directory).outcome =
        .ok (Settings.default directory) := by
      simp only [directorySettings, failed, absorbed, if_true]
      rfl
    refine ⟨iff_of_true ⟨_, had⟩ told, iff_of_true (by simp [failed, absorbed]) told, ?_⟩
    intro other same
    cases had.symm.trans same
    exact Settings.default_is_valid directory
  · have had : (workspace.directorySettings directory).outcome = .error fault := by
      simp only [directorySettings, failed, passedOn]
      rfl
    exact ⟨iff_of_false (by simp [had]) untold, iff_of_false (by simp [failed, passedOn]) untold,
      by simp [had]⟩

/-- A project of its settings alone. -/
def settingsAlone (text : String) : Workspace :=
  { files := .directory [(Settings.fileName, .file (encodeUtf8 text.toList))]
    workingDirectory := []
    home := "/"
    accounts := [] }

theorem settings_alone_place (text : String) :
    (settingsAlone text).SettingsPlace (Path.ofString ".") (Path.ofLocation [Settings.fileName])
      (Path.ofLocation []) := by
  constructor
  case leadsToFile =>
    have noLink : (settingsAlone text).linkTarget? (PartialPath.child
        { fromRoot := false, components := [] } Settings.fileName).toPath = .ok none := rfl
    have notNamed : (Path.ofString ".").name ≠ Settings.fileName := by decide
    have expanded : (settingsAlone text).expandHome (Path.ofString ".") =
        .ok (Path.ofString ".") := rfl
    rw [settingsFile, expanded]
    simp only [bind, Except.bind, if_neg notNamed]
    apply canonical_of_resolved
    case resolved =>
      exact (resolve_names_step _ _ _ _ _ _ (by decide) noLink).trans
        (resolve_names_done _ _ _ _)
    case settled => rfl
    case found => rfl
  case leadsToRoot =>
    apply canonical_of_resolved
    case resolved => exact resolve_names_done _ _ _ _
    case settled => rfl
    case found => rfl

theorem settings_alone_text (text : String) (noReturn : '\r' ∉ text.toList) :
    (settingsAlone text).HoldsText (Path.ofLocation [Settings.fileName]) text.toList := by
  have read : (settingsAlone text).readBytes (Path.ofLocation [Settings.fileName]) =
      .ok (encodeUtf8 text.toList) := rfl
  exact ⟨_, read, text_of_encoded_unified text.toList noReturn⟩

theorem settings_alone_load (text : String) (noReturn : '\r' ∉ text.toList) :
    (settingsAlone text).loadSettings (Path.ofString ".") =
      Settings.ofText (Path.ofLocation []) Settings.fileName text.toList :=
  load_settings_of_text _ _ _ _ _ (settings_alone_place text) (settings_alone_text text noReturn)

/-- A day that its month does not have is a fault that no document can be written for. -/
theorem impossible_day_passed_on :
    ∃ fault, (settingsAlone "a: 2024-02-30\n").loadSettings (Path.ofString ".") = .error fault ∧
      fault = .value (.timestamp .day) ∧ fault.isAbsorbed = false ∧
      ((settingsAlone "a: 2024-02-30\n").directorySettings (Path.ofString ".")).outcome =
        .error fault := by
  have failed : Settings.ofText (Path.ofLocation []) Settings.fileName
      "a: 2024-02-30\n".toList = .error (.value (.timestamp .day)) := by
    decide +kernel
  have loaded := (settings_alone_load "a: 2024-02-30\n" (by decide)).trans failed
  refine ⟨_, loaded, rfl, rfl, ?_⟩
  simp only [directorySettings, loaded]
  rfl

/-- Settings are refused exactly when their value is to be refused, and are valid otherwise,
except where the text of a value to be refused is taken for an empty one or an integer in it
cannot be written: then there are the default settings, or a fault that is no refusal. -/
theorem settings_follow_value (workspace : Workspace) (path file root : Path)
    (text : List Char) (document : Option Yaml.Document)
    (place : workspace.SettingsPlace path file root) (held : workspace.HoldsText file text)
    (parsed : Yaml.Document.ofText text = .ok document) :
    ((((∃ fault, workspace.loadSettings path = .error fault ∧ fault.isRejection = true) ↔
            Settings.IsRefused document) ∧
          (¬ Settings.IsRefused document →
            ∃ settings, workspace.loadSettings path = .ok settings ∧ settings.IsValid)) ↔
        ¬ (Settings.IsRefused document ∧ Settings.IsTakenForEmpty text document) ∧
          ¬ Settings.AsksForOverlong text document) ∧
      (Settings.IsRefused document ∧ Settings.IsTakenForEmpty text document →
        workspace.loadSettings path = .ok (Settings.default root)) ∧
      (Settings.AsksForOverlong text document →
        workspace.loadSettings path = .error Settings.overlong) := by
  rw [workspace.load_settings_of_text path file root text place held]
  rcases Settings.of_text_cases root file.name text document parsed with
    ⟨short, refused, empty, read⟩ | ⟨long, full, read⟩ |
      ⟨short, refused, full, fault, read, rejection⟩ | ⟨short, accepted, settings, read, valid⟩
  · refine ⟨iff_of_false ?_ (fun both => both.1 ⟨refused, empty⟩), fun _ => read,
      fun long => absurd long short⟩
    simp [read, refused]
  · refine ⟨iff_of_false ?_ (fun both => both.2 long), fun both => absurd both.2 full,
      fun _ => read⟩
    rintro ⟨rejected, given⟩
    by_cases refused : Settings.IsRefused document
    · obtain ⟨fault, failed, rejection⟩ := rejected.mpr refused
      cases read.symm.trans failed
      exact absurd rejection Bool.false_ne_true
    · obtain ⟨settings, taken, -⟩ := given refused
      cases read.symm.trans taken
  · refine ⟨iff_of_true ⟨iff_of_true ⟨fault, read, rejection⟩ refused, absurd refused⟩
      ⟨fun both => full both.2, short⟩, fun both => absurd both.2 full,
      fun long => absurd long short⟩
  · refine ⟨iff_of_true ⟨iff_of_false ?_ accepted, fun _ => ⟨settings, read, valid⟩⟩
      ⟨fun both => accepted both.1, short⟩, fun both => absurd both.1 accepted,
      fun long => absurd long short⟩
    simp [read]

/-- A text has a document if a question about it is answered. -/
theorem document_of_answer {Answer : Type} (text : List Char) (question : Yaml.Document → Answer)
    (answer : Answer)
    (answered : (Yaml.Document.ofText text).toOption.bind (fun document => document.map question) =
      some answer) :
    ∃ document, Yaml.Document.ofText text = .ok (some document) ∧ question document = answer := by
  obtain ⟨found, read, mapped⟩ := Option.bind_eq_some_iff.mp answered
  obtain ⟨document, rfl, same⟩ := Option.map_eq_some_iff.mp mapped
  cases parsed : Yaml.Document.ofText text with
  | error fault => simp [parsed, Except.toOption] at read
  | ok other =>
      simp only [parsed, Except.toOption, Option.some.injEq] at read
      exact ⟨document, by rw [read], same⟩

/-- Settings for a language that no code names. -/
def frenchText : String := "readme: \x7blanguage: fr\x7d\n"

theorem unknown_language_is_refused :
    ∃ document, Yaml.Document.ofText frenchText.toList = .ok (some document) ∧
      (settingsAlone frenchText).SettingsPlace (Path.ofString ".")
        (Path.ofLocation [Settings.fileName]) (Path.ofLocation []) ∧
      (settingsAlone frenchText).HoldsText (Path.ofLocation [Settings.fileName])
        frenchText.toList ∧
      Settings.IsRefused (some document) ∧
      ∃ fault, (settingsAlone frenchText).loadSettings (Path.ofString ".") = .error fault ∧
        fault.isRejection = true := by
  obtain ⟨document, parsed, answer⟩ := document_of_answer frenchText.toList
    (fun document => (document.value document.root, document.isVoid document.root,
      (Settings.option? document "language").map document.value))
    (.mapping, false, some (.text (WideText.ofString "fr"))) (by decide +kernel)
  simp only [Prod.mk.injEq] at answer
  obtain ⟨isMapping, full, language⟩ := answer
  obtain ⟨id, node, value⟩ := Option.map_eq_some_iff.mp language
  have namesNone : Settings.NamesNoLanguage document :=
    ⟨id, WideText.ofString "fr", node, by rw [value]; rfl, by decide, by decide⟩
  have refused : Settings.IsRefused (some document) :=
    ⟨document, rfl, Or.inr ⟨isMapping, Or.inl namesNone⟩⟩
  have notBlank : trim frenchText.toList ≠ [] := by decide +kernel
  have place := settings_alone_place frenchText
  have held := settings_alone_text frenchText (by decide)
  have said := settings_follow_value (settingsAlone frenchText) _ _ _ _ _ place held parsed
  have notEmpty : ¬ Settings.IsTakenForEmpty frenchText.toList (some document) := by
    rintro (blank | ⟨other, same, void⟩)
    · exact notBlank blank
    · cases same
      exact absurd (full.symm.trans void) Bool.false_ne_true
  have short : ¬ Settings.AsksForOverlong frenchText.toList (some document) := by
    rintro ⟨-, other, same, -, ⟨named, number, isNamed, isNumber, -⟩ | ⟨noCode, -⟩⟩
    · cases same
      cases node.symm.trans isNamed
      exact absurd (value.symm.trans isNumber) nofun
    · cases same
      exact noCode namesNone
  obtain ⟨rejected, -⟩ := said.1.mpr ⟨fun both => notEmpty both.2, short⟩
  exact ⟨document, parsed, place, held, refused, rejected.mpr refused⟩

/-- A list is no mapping, but an empty one gives the default settings. -/
theorem empty_list_gives_default :
    ∃ document, Yaml.Document.ofText "[]\n".toList = .ok (some document) ∧
      document.value document.root = .sequence ∧
      (settingsAlone "[]\n").SettingsPlace (Path.ofString ".")
        (Path.ofLocation [Settings.fileName]) (Path.ofLocation []) ∧
      (settingsAlone "[]\n").HoldsText (Path.ofLocation [Settings.fileName]) "[]\n".toList ∧
      Settings.IsRefused (some document) ∧
      (settingsAlone "[]\n").loadSettings (Path.ofString ".") =
        .ok (Settings.default (Path.ofLocation [])) := by
  obtain ⟨document, parsed, isList⟩ := document_of_answer "[]\n".toList
    (fun document => document.value document.root) .sequence (by decide +kernel)
  have given : Settings.ofText (Path.ofLocation []) Settings.fileName "[]\n".toList =
      .ok (Settings.default (Path.ofLocation [])) := by
    decide +kernel
  have refused : Settings.IsRefused (some document) :=
    ⟨document, rfl, Or.inl ⟨by rw [isList]; nofun, by rw [isList]; nofun⟩⟩
  exact ⟨document, parsed, isList, settings_alone_place _, settings_alone_text _ (by decide),
    refused, (settings_alone_load _ (by decide)).trans given⟩

end Workspace

end ReadmePress
