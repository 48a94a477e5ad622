import ReadmePress.Proofs.FileSystem.Shape
import ReadmePress.Proofs.Outcome
import ReadmePress.Proofs.SortedSet
import ReadmePress.Tools.Operation

/-!
The files that a document is drawn from: the manifest, the settings, the sample of the
environment and the listed source files. Of all other files a document tells no more than that
they are there, so trees of one shape that agree on these files give one document.
-/

namespace ReadmePress

open ReadmePress.Text

namespace Selection

/-- The second selection is the first one with some patterns more that shut paths out. -/
structure Narrows (wide narrow : Selection) : Prop where
  included : ∀ path, narrow.globs.includes path = wide.globs.includes path
  excluded : ∀ path, wide.globs.excludes path = true → narrow.globs.excludes path = true
  directories : narrow.listDirectories = wide.listDirectories

theorem selects_of_narrow (wide narrow : Selection) (narrows : wide.Narrows narrow)
    (path : String) (selected : narrow.globs.selects path = true) :
    wide.globs.selects path = true := by
  rw [GlobSet.selects, Bool.and_eq_true, Bool.not_eq_true', Bool.eq_false_iff] at selected ⊢
  rw [← narrows.included]
  exact ⟨selected.1, mt (narrows.excluded path) selected.2⟩

mutual

theorem scan_node_narrow (wide narrow : Selection) (narrows : wide.Narrows narrow)
    (path : String) (node : Node) : narrow.scanNode path node ⊆ wide.scanNode path node := by
  cases node with
  | link target => exact List.Subset.refl _
  | file content =>
      rw [scanNode, scanNode]
      split
      next selected =>
        rw [if_pos (selects_of_narrow wide narrow narrows path selected)]
        exact List.Subset.refl _
      next => exact List.nil_subset _
  | directory entries =>
      rw [scanNode, scanNode]
      split
      next => exact List.nil_subset _
      next entered =>
        have enteredWide : ¬ wide.globs.excludes path = true := mt (narrows.excluded path) entered
        rw [if_neg enteredWide, narrows.included, narrows.directories]
        apply List.append_subset.mpr
        constructor
        · exact List.subset_append_left _ _
        · apply List.subset_append_of_subset_right
          exact scan_entries_narrow wide narrow narrows path entries

theorem scan_entries_narrow (wide narrow : Selection) (narrows : wide.Narrows narrow)
    (directory : String) (entries : List (String × Node)) :
    narrow.scanEntries directory entries ⊆ wide.scanEntries directory entries := by
  cases entries with
  | nil => exact List.Subset.refl _
  | cons entry rest =>
      obtain ⟨name, node⟩ := entry
      rw [scanEntries, scanEntries]
      apply List.append_subset.mpr
      constructor
      · apply List.subset_append_of_subset_left
        split
        · exact List.Subset.refl _
        · exact scan_node_narrow wide narrow narrows (pathBelow directory name) node
      · apply List.subset_append_of_subset_right
        exact scan_entries_narrow wide narrow narrows directory rest

end

end Selection

namespace Workspace

/-- The files that the document of a directory is drawn from. -/
inductive IsFactFile (workspace : Workspace) (directory : Path) (location : Location) : Prop where
  | manifest
      (leads : workspace.arrive true (Manifest.pathIn directory) = .ok (.existing location))
  | settings (file : Path) (named : workspace.settingsFile directory = .ok file)
      (leads : workspace.arrive true file = .ok (.existing location))
  | sample
      (leads : workspace.arrive true
        (directory ++ Path.ofString EnvironmentKey.sampleFileName) = .ok (.existing location))
  | source (paths : List String) (path : String)
      (scanned : workspace.sourceFiles directory [] = .ok paths) (listed : path ∈ paths)
      (leads : workspace.arrive true (listedFile directory path) = .ok (.existing location))

/-- A tree of the same shape, with the same contents of the files that a document is drawn
from. -/
structure KeepsFacts (workspace : Workspace) (directory : Path) (others : Node) : Prop where
  shape : others.emptied = workspace.files.emptied
  contents : ∀ location, workspace.IsFactFile directory location →
    others.entryAt? location = workspace.files.entryAt? location

/-- What is listed with exclusions is listed without them. -/
theorem listed_without_exclusions (workspace : Workspace) (root : Path)
    (exclusions paths : List String)
    (scanned : workspace.sourceFiles root exclusions = .ok paths) :
    ∃ all, workspace.sourceFiles root [] = .ok all ∧ paths ⊆ all := by
  have narrows : Selection.Narrows
      { globs := GlobSet.ofPatterns sourcePatterns (sourceExclusions ++ []),
        listDirectories := false }
      { globs := GlobSet.ofPatterns sourcePatterns (sourceExclusions ++ exclusions),
        listDirectories := false } := by
    refine ⟨fun path => rfl, fun path shutOut => ?_, rfl⟩
    simp only [GlobSet.excludes, GlobSet.ofPatterns, List.append_nil, List.map_append,
      List.any_append, Bool.or_eq_true] at shutOut ⊢
    exact Or.inl shutOut
  unfold sourceFiles scan at scanned ⊢
  cases answer : workspace.isDirectory root with
  | error fault => simp [answer, bind, Except.bind] at scanned
  | ok isDirectory =>
      simp only [answer, bind, Except.bind] at scanned ⊢
      cases isDirectory with
      | false => exact ⟨paths, scanned, List.Subset.refl _⟩
      | true =>
          simp only [if_true] at scanned ⊢
          cases found : workspace.lookUp true root with
          | error fault =>
              rw [found] at scanned
              exact ⟨paths, scanned, List.Subset.refl _⟩
          | ok place =>
              obtain ⟨location, node⟩ := place
              rw [found, Except.ok.injEq] at scanned
              refine ⟨_, rfl, ?_⟩
              intro path member
              rw [← scanned, SortedSet.mem_of_list] at member
              rw [SortedSet.mem_of_list]
              exact Selection.scan_entries_narrow _ _ narrows "" node.entries member

theorem settings_file_emptied (workspace : Workspace) (path : Path) :
    workspace.emptied.settingsFile path = workspace.settingsFile path := by
  have sameHome : workspace.emptied.expandHome path = workspace.expandHome path := rfl
  unfold settingsFile
  simp only [sameHome, canonical_emptied]

theorem project_name_emptied (workspace : Workspace) (explicit : Option String)
    (manifest : Option Manifest) (directory : Path) :
    workspace.emptied.projectName explicit manifest directory =
      workspace.projectName explicit manifest directory := by
  unfold projectName
  rw [canonical_emptied]

theorem source_files_emptied (workspace : Workspace) (root : Path) (exclusions : List String) :
    workspace.emptied.sourceFiles root exclusions = workspace.sourceFiles root exclusions :=
  scan_emptied workspace root _

theorem list_directory_emptied (workspace : Workspace) (root : Path) (depth : Int)
    (exclusions : List String) :
    workspace.emptied.listDirectory root depth exclusions =
      workspace.listDirectory root depth exclusions := by
  unfold listDirectory
  rw [scan_emptied]

theorem badge_line_emptied (workspace : Workspace) (directory : Path)
    (manifest : Option Manifest) :
    workspace.emptied.badgeLine directory manifest = workspace.badgeLine directory manifest := by
  unfold badgeLine BadgeFacts.ofDirectory
  simp only [file_exists_emptied]

/-- The files that a document is drawn from are told by the shape of the tree. -/
theorem fact_file_of_shape (workspace : Workspace) (directory : Path) (others : Node)
    (same : others.emptied = workspace.files.emptied) (location : Location)
    (isFact : (workspace.withFiles others).IsFactFile directory location) :
    workspace.IsFactFile directory location := by
  have sameArrival := arrive_same workspace others (Node.outline_of_shape _ _ same) true
  have sameFile := told_by_shape (·.settingsFile directory)
    (fun workspace => settings_file_emptied workspace directory) workspace others same
  have sameFiles := told_by_shape (·.sourceFiles directory [])
    (fun workspace => source_files_emptied workspace directory []) workspace others same
  cases isFact with
  | manifest leads =>
      rw [sameArrival] at leads
      exact .manifest leads
  | settings file named leads =>
      rw [sameArrival] at leads
      exact .settings file (sameFile ▸ named) leads
  | sample leads =>
      rw [sameArrival] at leads
      exact .sample leads
  | source paths path scanned listed leads =>
      rw [sameArrival] at leads
      exact .source paths path (sameFiles ▸ scanned) listed leads

/-- The paths besides that of the manifest that facts are collected from, where these settings are
given. Sources that the settings shut out are not among them. -/
inductive IsDrawnFrom (workspace : Workspace) (directory : Path) (given : Option Settings) :
    Path → Prop
  | settings (file : Path) (named : workspace.settingsFile directory = .ok file) :
      IsDrawnFrom workspace directory given file
  | sample : IsDrawnFrom workspace directory given
      (directory ++ Path.ofString EnvironmentKey.sampleFileName)
  | source (settings : Settings) (paths : List String) (path : String)
      (taken : (workspace.settingsFor directory given).outcome = .ok settings)
      (scanned : workspace.sourceFiles directory
        (settings.exclusions.filterMap WideText.toString?) = .ok paths)
      (listed : path ∈ paths) :
      IsDrawnFrom workspace directory given (listedFile directory path)

/-- Where a path leads, another tree has the same. -/
def ReadsAlike (workspace : Workspace) (others : Node) (path : Path) : Prop :=
  ∀ location, workspace.arrive true path = .ok (.existing location) →
    others.entryAt? location = workspace.files.entryAt? location

/-- All that facts are collected from, but for the manifest, is the same. -/
structure CollectsAlike (workspace other : Workspace) (directory : Path)
    (given : Option Settings) : Prop where
  settings : other.settingsFor directory given = workspace.settingsFor directory given
  sample : other.environmentSample directory = workspace.environmentSample directory
  texts : ∀ settings, (workspace.settingsFor directory given).outcome = .ok settings →
    other.sourceTexts directory (settings.exclusions.filterMap WideText.toString?) =
      workspace.sourceTexts directory (settings.exclusions.filterMap WideText.toString?)
  badges : ∀ manifest, other.badgeLine directory manifest = workspace.badgeLine directory manifest
  name : ∀ explicit manifest, other.projectName explicit manifest directory =
    workspace.projectName explicit manifest directory
  listing : ∀ depth exclusions, other.listDirectory directory depth exclusions =
    workspace.listDirectory directory depth exclusions

section Same

variable (workspace : Workspace) (directory : Path) (given : Option Settings) (others : Node)
  (shape : others.emptied = workspace.files.emptied)
  (alike : ∀ path, workspace.IsDrawnFrom directory given path → workspace.ReadsAlike others path)

include shape alike

theorem load_settings_same :
    (workspace.withFiles others).loadSettings directory = workspace.loadSettings directory := by
  have sameFile := told_by_shape (·.settingsFile directory)
    (fun workspace => settings_file_emptied workspace directory) workspace others shape
  have sameRoot (path : Path) := told_by_shape (·.canonical path)
    (fun workspace => canonical_emptied workspace path) workspace others shape
  have sameAnswer (path : Path) := told_by_shape (·.holds path)
    (fun workspace => holds_emptied workspace path) workspace others shape
  unfold loadSettings
  simp only [sameFile, sameRoot, sameAnswer]
  cases named : workspace.settingsFile directory with
  | error fault => rfl
  | ok file =>
      have sameBytes := read_bytes_same workspace others (Node.outline_of_shape _ _ shape) file
        (alike file (.settings file named))
      simp only [Except.mapError, bind, Except.bind, sameBytes]

theorem settings_for_same :
    (workspace.withFiles others).settingsFor directory given =
      workspace.settingsFor directory given := by
  have loaded := load_settings_same workspace directory given others shape alike
  cases given with
  | some settings => rfl
  | none =>
      unfold settingsFor directorySettings
      rw [loaded]

theorem environment_sample_same :
    (workspace.withFiles others).environmentSample directory =
      workspace.environmentSample directory := by
  have sameText := read_text_same workspace others (Node.outline_of_shape _ _ shape)
    (directory ++ Path.ofString EnvironmentKey.sampleFileName) (alike _ .sample)
  have sameAnswer (path : Path) := told_by_shape (·.fileExists path)
    (fun workspace => file_exists_emptied workspace path) workspace others shape
  unfold environmentSample
  simp only [sameAnswer, sameText]

theorem source_texts_same (settings : Settings)
    (taken : (workspace.settingsFor directory given).outcome = .ok settings) :
    (workspace.withFiles others).sourceTexts directory
        (settings.exclusions.filterMap WideText.toString?) =
      workspace.sourceTexts directory (settings.exclusions.filterMap WideText.toString?) := by
  have sameFiles (exclusions : List String) := told_by_shape (·.sourceFiles directory exclusions)
    (fun workspace => source_files_emptied workspace directory exclusions)
    workspace others shape
  unfold sourceTexts
  rw [sameFiles]
  apply Traced.bind_congr
  intro paths listed
  have scanned := (map_error_ok_iff ReadingFault.file _ _).mp listed
  have sameTexts := Traced.each_congr
    (fun file => (workspace.withFiles others).readText (listedFile directory file))
    (fun file => workspace.readText (listedFile directory file)) paths
    fun path member => read_text_same workspace others (Node.outline_of_shape _ _ shape)
      (listedFile directory path) (alike _ (.source settings paths path taken scanned member))
  rw [sameTexts]

/-- Besides the manifest only the shape of the tree and what stands at the paths that a document
is drawn from matter to its facts. -/
theorem collects_alike :
    workspace.CollectsAlike (workspace.withFiles others) directory given where
  settings := settings_for_same workspace directory given others shape alike
  sample := environment_sample_same workspace directory given others shape alike
  texts := source_texts_same workspace directory given others shape alike
  badges := fun manifest => told_by_shape (·.badgeLine directory manifest)
    (fun workspace => badge_line_emptied workspace directory manifest) workspace others shape
  name := fun explicit manifest => told_by_shape (·.projectName explicit manifest directory)
    (fun workspace => project_name_emptied workspace explicit manifest directory)
    workspace others shape
  listing := fun depth exclusions => told_by_shape (·.listDirectory directory depth exclusions)
    (fun workspace => list_directory_emptied workspace directory depth exclusions)
    workspace others shape

end Same

section Kept

variable (workspace : Workspace) (directory : Path) (others : Node)
  (keeps : workspace.KeepsFacts directory others)

include keeps

theorem drawn_from_kept (given : Option Settings) (path : Path)
    (drawn : workspace.IsDrawnFrom directory given path) : workspace.ReadsAlike others path := by
  intro location leads
  apply keeps.contents
  cases drawn with
  | settings file named => exact .settings path named leads
  | sample => exact .sample leads
  | source settings paths path taken scanned listed =>
      obtain ⟨all, scannedAll, subset⟩ :=
        listed_without_exclusions workspace directory _ paths scanned
      exact .source all path scannedAll (subset listed) leads

theorem manifest_for_same :
    (workspace.withFiles others).manifestFor directory = workspace.manifestFor directory := by
  have sameText := read_text_same workspace others (Node.outline_of_shape _ _ keeps.shape)
    (Manifest.pathIn directory) fun location leads => keeps.contents location (.manifest leads)
  unfold manifestFor loadManifest readJson
  rw [sameText]

theorem collect_facts_same (request : FactsRequest) :
    (workspace.withFiles others).collectFacts directory request =
      workspace.collectFacts directory request := by
  have same := collects_alike workspace directory request.settings others keeps.shape
    (drawn_from_kept workspace directory others keeps request.settings)
  have sameManifest := manifest_for_same workspace directory others keeps
  unfold collectFacts collectRoutes collectEnvironmentKeys
  simp only [same.settings, sameManifest, same.sample, same.badges, same.name, same.listing]
  refine Traced.bind_congr _ _ _ fun settings taken => ?_
  simp only [same.texts settings taken]

end Kept

/-- A document changes only with the shape of the tree or with the files it is drawn from. -/
theorem describe_same (workspace : Workspace) (arguments : FullArguments) (others : Node)
    (keeps : workspace.KeepsFacts (workspace.directoryOr arguments.directory) others) :
    (workspace.withFiles others).describe arguments = workspace.describe arguments := by
  have sameFacts := collect_facts_same workspace _ others keeps
  have sameDirectory : (workspace.withFiles others).directoryOr arguments.directory =
      workspace.directoryOr arguments.directory := rfl
  unfold describe
  rw [sameDirectory]
  simp only [sameFacts]

end Workspace

end ReadmePress
