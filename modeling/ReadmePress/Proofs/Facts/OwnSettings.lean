import ReadmePress.Facts.Collection
import ReadmePress.Proofs.Facts.Settings
import ReadmePress.Proofs.FileSystem.CanonicalPlaces

/-!
Which settings a project is described with. They are found by a canonical path, and the rest of
the facts by the path of the directory as it is; both lead to the entry of the one directory
unless its path names a home directory or ends in the name of a settings file.
-/

namespace ReadmePress

open ReadmePress.Text

/-- A relative path whose first name begins with a tilde. -/
def Path.NamesHome (path : Path) : Prop :=
  path.root = .relative ∧
    ∃ first rest, path.components = first :: rest ∧ first.toList.head? = some '~'

namespace Settings

/-- The path of the settings in a directory's own entry. -/
def pathIn (directory : Path) : Path := directory ++ Path.ofString fileName

/-- The same settings for another directory. -/
def rootedAt (directory : Path) (settings : Settings) : Settings :=
  { settings with root := directory }

/-- What a document takes for the settings of a directory: the ones that were read, or the default
ones in place of what it does without. -/
def taken (directory : Path) : Except SettingsFault Settings → Except SettingsFault Settings
  | .ok settings => .ok (settings.rootedAt directory)
  | .error fault => if fault.isAbsorbed then .ok (default directory) else .error fault

theorem of_mapping_rooted (root directory : Path) (document : Yaml.Document) :
    (ofMapping root document).map (rootedAt directory) = ofMapping directory document := by
  unfold ofMapping
  simp only [bind, Except.bind]
  repeat' split
  all_goals simp_all [Except.map, rootedAt]

/-- What is taken does not depend on the directory and the name that a text is read for. -/
theorem taken_of_text (root directory : Path) (fileName : String) (text : List Char) :
    taken directory (ofText root fileName text) =
      taken directory (ofText directory Settings.fileName text) := by
  have mapped (root : Path) (document : Yaml.Document) :
      taken directory (ofMapping root document) =
        taken directory (ofMapping directory document) := by
    rw [← of_mapping_rooted root directory document]
    cases ofMapping root document <;> rfl
  unfold ofText
  split
  · rfl
  · split
    · rfl
    · rfl
    · rfl
    · split
      · rfl
      · split
        · exact mapped root _
        · rfl

end Settings

namespace Workspace

/-- The settings that the own entry of a directory holds; the default ones where nothing can be
read there, or nothing that says what settings can say. -/
def ownSettings (workspace : Workspace) (directory : Path) : Except SettingsFault Settings :=
  match workspace.readBytes (Settings.pathIn directory) with
  | .error _ => .ok (Settings.default directory)
  | .ok bytes =>
      match textOfBytes bytes with
      | .error _ => .ok (Settings.default directory)
      | .ok text =>
          Settings.taken directory (Settings.ofText directory Settings.fileName text)

theorem settings_for_loaded (workspace : Workspace) (directory : Path) (settings : Settings)
    (loaded : workspace.loadSettings directory = .ok settings) :
    (workspace.settingsFor directory none).outcome = .ok settings := by
  simp only [settingsFor, directorySettings, loaded]
  rfl

/-- Facts are collected with the settings of the directory as with settings that are given. -/
theorem collect_with_settings (workspace : Workspace) (directory : Path) (request : FactsRequest) :
    (workspace.collectFacts directory { request with settings := none }).outcome =
      match Settings.taken directory (workspace.loadSettings directory) with
      | .ok settings =>
          (workspace.collectFacts directory { request with settings := some settings }).outcome
      | .error fault => .error (.settings fault) := by
  have chosen (settings other : Settings) (same : settings.rootedAt directory = other) :
      (workspace.collectFacts directory { request with settings := some settings }).outcome =
        (workspace.collectFacts directory { request with settings := some other }).outcome := by
    subst same
    rfl
  have firstStep (settings : Settings)
      (given : (workspace.settingsFor directory none).outcome = .ok settings) :
      (workspace.collectFacts directory { request with settings := none }).outcome =
        (workspace.collectFacts directory { request with settings := some settings }).outcome :=
    Traced.bind_outcome _ _ settings given
  cases loaded : workspace.loadSettings directory with
  | ok settings =>
      have given := settings_for_loaded workspace directory settings loaded
      exact (firstStep settings given).trans (chosen settings _ rfl)
  | error fault =>
      by_cases absorbed : fault.isAbsorbed = true
      · have given : (workspace.settingsFor directory none).outcome =
            .ok (Settings.default directory) := by
          simp only [settingsFor, directorySettings, loaded, absorbed, if_true]
          rfl
        simp only [Settings.taken, absorbed, if_true]
        exact firstStep _ given
      · have refused : (workspace.settingsFor directory none).outcome =
            .error (.settings fault) := by
          simp only [settingsFor, directorySettings, loaded, if_neg absorbed]
          rfl
        simp only [Settings.taken, if_neg absorbed]
        change (Traced.bind (workspace.settingsFor directory none) _).outcome = _
        rw [Traced.bind, refused]

section Place

variable (workspace : Workspace) (real : workspace.IsReal) (directory : Path)
  (noHome : ¬ directory.NamesHome) (notNamed : directory.name ≠ Settings.fileName)
  (fits : workspace.wayBytes (Settings.pathIn directory) < pathLimit)

include noHome notNamed in
theorem settings_file_in : workspace.settingsFile directory =
    workspace.canonical (Settings.pathIn directory) := by
  have expanded : workspace.expandHome directory = .ok directory := by
    unfold expandHome
    split
    next first rest isRelative components =>
      split
      next user isTilde =>
        exact absurd ⟨isRelative, first, rest, components, by simp [isTilde]⟩ noHome
      next => rfl
    next => rfl
  rw [settingsFile, expanded]
  simp only [bind, Except.bind, if_neg notNamed]
  rfl

include real noHome notNamed fits

/-- Where the own entry leads somewhere its bytes are the ones that are loaded. -/
theorem own_settings_found (place : Location)
    (leads : workspace.arrive true (Settings.pathIn directory) = .ok (.existing place)) :
    Settings.taken directory (workspace.loadSettings directory) =
      workspace.ownSettings directory := by
  obtain ⟨follows, few⟩ :=
    workspace.follows_of_arrival real.onDisk.wellFormed (Settings.pathIn directory) place leads
  have deep : linkLimit ≤ resolutionDepth := by decide
  obtain ⟨canonical, names, placeFits, node, found, looked⟩ :=
    workspace.canonical_of_follows real (Settings.pathIn directory) place _ follows
      (Nat.le_trans few deep) fits
  have settingsPlace : workspace.SettingsPlace directory (Path.ofLocation place)
      (Path.ofLocation place.dropLast) :=
    { leadsToFile := (workspace.settings_file_in directory noHome notNamed).trans canonical
      leadsToRoot := workspace.canonical_above real place node names found placeFits }
  have present : workspace.holds (Path.ofLocation place) = .ok true := by
    rw [holds, ask, looked]
  have lookedOwn : workspace.lookUp true (Settings.pathIn directory) = .ok (place, node) :=
    (look_up_ok_iff _ _ _ _ _).mpr ⟨leads, found⟩
  rw [load_settings_at workspace directory _ _ settingsPlace, present, ownSettings, readBytes,
    readBytes, looked, lookedOwn]
  cases node with
  | file content =>
      simp only [bind, Except.bind]
      cases textOfBytes content with
      | error error => rfl
      | ok text => exact Settings.taken_of_text _ directory _ text
  | link target => rfl
  | directory entries => rfl

section Absent

variable (here : Location) (leads : workspace.arrive true directory = .ok (.existing here))
  (isDirectory : workspace.files.entryAt? here = some .directory)
  (absent : workspace.files.entryAt? (here ++ [Settings.fileName]) = none)

include leads isDirectory absent

/-- Settings that are absent are looked for in the place of their directory. -/
theorem absent_settings_place :
    workspace.SettingsPlace directory (Path.ofLocation (here ++ [Settings.fileName]))
        (Path.ofLocation here) ∧
      workspace.holds (Path.ofLocation (here ++ [Settings.fileName])) = .ok false := by
  have isName : IsEntryName Settings.fileName := ⟨by decide, by decide, by decide, by decide⟩
  have deep : linkLimit ≤ resolutionDepth := by decide
  obtain ⟨follows, few⟩ :=
    workspace.follows_of_arrival real.onDisk.wellFormed directory here leads
  obtain ⟨later, split⟩ := targets_met_before workspace.files linkLimit
    (workspace.startOf directory.isAbsolute) directory.components Settings.fileName
  have wayFits : namesBytes (workspace.startOf directory.isAbsolute) +
      namesBytes (directory.components ++ [Settings.fileName]) +
      namesBytes (workspace.targetsOnWay directory) < pathLimit := by
    have whole : workspace.wayBytes (Settings.pathIn directory) =
        namesBytes (workspace.startOf directory.isAbsolute) +
          namesBytes (directory.components ++ [Settings.fileName]) +
          namesBytes (workspace.targetsOnWay directory ++ later) := by
      rw [targetsOnWay, split]
      rfl
    rw [names_bytes_append (workspace.targetsOnWay directory)] at whole
    omega
  have shorter := wayFits
  rw [names_bytes_append] at shorter
  obtain ⟨-, names, hereFits, -⟩ := workspace.canonical_of_follows real directory here _ follows
    (Nat.le_trans few deep) (by omega)
  obtain ⟨canonical, looked⟩ :=
    workspace.canonical_of_missing real directory Settings.fileName here _ isName (by decide)
      follows isDirectory absent (Nat.le_trans few deep) wayFits
  refine ⟨⟨?_, ?_⟩, ?_⟩
  · exact (workspace.settings_file_in directory noHome notNamed).trans canonical
  · rw [Path.parent, Path.ofLocation, List.dropLast_concat]
    exact workspace.canonical_of_directory real here names isDirectory hereFits
  · simp only [holds, ask, looked]
    rfl

/-- Where there is no own entry the default settings are loaded. -/
theorem own_settings_absent :
    workspace.ownSettings directory = .ok (Settings.default directory) ∧
      Settings.taken directory (workspace.loadSettings directory) =
        .ok (Settings.default directory) := by
  have isName : IsEntryName Settings.fileName := ⟨by decide, by decide, by decide, by decide⟩
  have nothingRead : ∀ content, workspace.readBytes (Settings.pathIn directory) ≠ .ok content := by
    intro content read
    obtain ⟨place, found⟩ := (read_bytes_ok_iff _ _ _).mp read
    exact workspace.entry_of_child real.onDisk.wellFormed directory Settings.fileName isName here
      place leads ((look_up_ok_iff _ _ _ _ _).mp found).1 absent
  constructor
  · rw [ownSettings]
    cases read : workspace.readBytes (Settings.pathIn directory) with
    | error fault => rfl
    | ok content => exact absurd read (nothingRead content)
  · obtain ⟨settingsPlace, missing⟩ := workspace.absent_settings_place real directory noHome
      notNamed fits here leads isDirectory absent
    rw [load_settings_at workspace directory _ _ settingsPlace, missing]
    rfl

end Absent

end Place

/-- A directory is described with the settings that its own entry holds, by default ones where
there is no entry, unless its path names a home directory or is named like the settings. -/
theorem facts_use_own_settings (workspace : Workspace) (real : workspace.IsReal) (directory : Path)
    (here : Location) (leads : workspace.arrive true directory = .ok (.existing here))
    (isDirectory : workspace.files.entryAt? here = some .directory)
    (noHome : ¬ directory.NamesHome) (notNamed : directory.name ≠ Settings.fileName)
    (fits : workspace.wayBytes (Settings.pathIn directory) < pathLimit)
    (entry : workspace.files.entryAt? (here ++ [Settings.fileName]) = none ∨
      ∃ place, workspace.arrive true (Settings.pathIn directory) = .ok (.existing place))
    (request : FactsRequest) :
    ((workspace.collectFacts directory { request with settings := none }).outcome =
      match workspace.ownSettings directory with
      | .ok settings =>
          (workspace.collectFacts directory { request with settings := some settings }).outcome
      | .error fault => .error (.settings fault)) ∧
    (workspace.files.entryAt? (here ++ [Settings.fileName]) = none →
      workspace.ownSettings directory = .ok (Settings.default directory)) := by
  have absent := workspace.own_settings_absent real directory noHome notNamed fits here leads
    isDirectory
  have taken : Settings.taken directory (workspace.loadSettings directory) =
      workspace.ownSettings directory := by
    rcases entry with isAbsent | ⟨place, found⟩
    · exact (absent isAbsent).2.trans (absent isAbsent).1.symm
    · exact workspace.own_settings_found real directory noHome notNamed fits place found
  refine ⟨?_, fun isAbsent => (absent isAbsent).1⟩
  rw [workspace.collect_with_settings directory request, taken]

/-- A directory of its settings alone, in the root directory. -/
def settingsIn (name text : String) : Workspace :=
  { files := .directory
      [(name, .directory [(Settings.fileName, .file (encodeUtf8 text.toList))])]
    workingDirectory := []
    home := "/home"
    accounts := [] }

/-- Settings that ask for English. -/
def englishLine : String := "readme: \x7blanguage: en\x7d\n"

/-- What these settings say. -/
def englishSettings (directory : Path) : Settings :=
  { Settings.default directory with options := { OptionRequest.none with language := some "en" } }

theorem english_own_settings :
    (settingsIn "p" englishLine).ownSettings (Path.ofString "p") =
        .ok (englishSettings (Path.ofString "p")) ∧
      (settingsIn "~" englishLine).ownSettings (Path.ofString "~") =
        .ok (englishSettings (Path.ofString "~")) := by
  decide +kernel

theorem settings_in_real (name text : String) (isComponent : IsComponent name)
    (noNull : '\x00' ∉ name.toList) :
    (settingsIn name text).IsReal where
  onDisk := by
    apply Node.directory_on_disk
    · simp
    · simpa using ⟨isComponent, noNull⟩
    · intro entry member
      rw [List.mem_singleton.mp member]
      apply Node.directory_on_disk
      · simp
      · simp only [List.map_cons, List.map_nil, List.mem_singleton, forall_eq, IsComponent]
        decide
      · intro inner isInner
        rw [List.mem_singleton.mp isInner]
        exact Node.leaf_on_disk _ rfl
  working := rfl
  workingNames := nofun

/-- A request that leaves everything but the name of the project to the settings. -/
def namedRequest (settings : Option Settings) : FactsRequest :=
  { FactsRequest.none with name := some "demo", settings := settings }

theorem english_settings_used :
    (settingsIn "p" englishLine).ownSettings (Path.ofString "p") =
        .ok (englishSettings (Path.ofString "p")) ∧
      ((settingsIn "p" englishLine).collectFacts (Path.ofString "p") (namedRequest none)).outcome =
        ((settingsIn "p" englishLine).collectFacts (Path.ofString "p")
          (namedRequest (some (englishSettings (Path.ofString "p"))))).outcome := by
  have used := (facts_use_own_settings (settingsIn "p" englishLine)
    (settings_in_real "p" englishLine (by simp [IsComponent]) (by decide)) (Path.ofString "p") ["p"]
    rfl rfl
    (by rintro ⟨-, first, rest, components, tilde⟩; cases components; cases tilde)
    (by decide) (by decide) (Or.inr ⟨["p", Settings.fileName], rfl⟩)
    (namedRequest none)).1
  rw [english_own_settings.1] at used
  exact ⟨english_own_settings.1, used⟩

/-- The settings of a directory called tilde are looked for in the home directory. -/
theorem tilde_settings_at_home :
    ((settingsIn "~" englishLine).settingsFor (Path.ofString "~") none).outcome =
      .ok (Settings.default (Path.ofLocation ["home"])) := by
  have noLink : (settingsIn "~" englishLine).linkTarget?
        (PartialPath.child { fromRoot := true, components := [] } "home").toPath = .ok none ∧
      (settingsIn "~" englishLine).linkTarget?
        (PartialPath.child { fromRoot := true, components := ["home"] } Settings.fileName).toPath =
          .ok none :=
    ⟨rfl, rfl⟩
  have toHome (rest : List String) :
      (settingsIn "~" englishLine).resolveNames resolutionDepth
          { fromRoot := true, components := [] } ("home" :: rest) [] =
        (settingsIn "~" englishLine).resolveNames resolutionDepth
          { fromRoot := true, components := ["home"] } rest [] :=
    resolve_names_step _ _ _ _ _ _ (by decide) noLink.1
  have place : (settingsIn "~" englishLine).SettingsPlace (Path.ofString "~")
      (Path.ofLocation ["home", Settings.fileName]) (Path.ofLocation ["home"]) := by
    constructor
    case leadsToFile =>
      have expanded : (settingsIn "~" englishLine).expandHome (Path.ofString "~") =
          .ok (Path.ofString "/home") := rfl
      have notNamed : (Path.ofString "/home").name ≠ Settings.fileName := by decide
      rw [settingsFile, expanded]
      simp only [bind, Except.bind, if_neg notNamed]
      exact canonical_of_stands _ _ { fromRoot := true, components := ["home", Settings.fileName] }
        ["home", Settings.fileName] []
        ((toHome [Settings.fileName]).trans
          ((resolve_names_step _ _ _ _ _ _ (by decide) noLink.2).trans
            (resolve_names_done _ _ _ _)))
        rfl (Or.inr ⟨_, rfl⟩)
    case leadsToRoot =>
      exact canonical_of_stands _ _ { fromRoot := true, components := ["home"] } ["home"] []
        ((toHome []).trans (resolve_names_done _ _ _ _)) rfl (Or.inr ⟨_, rfl⟩)
  have absent : (settingsIn "~" englishLine).holds
      (Path.ofLocation ["home", Settings.fileName]) = .ok false := rfl
  have loaded := load_settings_at _ _ _ _ place
  rw [absent] at loaded
  exact settings_for_loaded _ _ _ loaded

/-- A directory called tilde is described without the settings in it. -/
theorem tilde_settings_not_used :
    (settingsIn "~" englishLine).IsReal ∧
      (settingsIn "~" englishLine).arrive true (Path.ofString "~") = .ok (.existing ["~"]) ∧
      (settingsIn "~" englishLine).files.entryAt? ["~"] = some .directory ∧
      (settingsIn "~" englishLine).ownSettings (Path.ofString "~") =
        .ok (englishSettings (Path.ofString "~")) ∧
      ((settingsIn "~" englishLine).collectFacts (Path.ofString "~") (namedRequest none)).outcome ≠
        ((settingsIn "~" englishLine).collectFacts (Path.ofString "~")
          (namedRequest (some (englishSettings (Path.ofString "~"))))).outcome := by
  refine ⟨settings_in_real "~" englishLine (by simp [IsComponent]) (by decide),
    rfl, rfl, english_own_settings.2, ?_⟩
  have described : ((settingsIn "~" englishLine).collectFacts (Path.ofString "~")
      (namedRequest none)).outcome =
        ((settingsIn "~" englishLine).collectFacts (Path.ofString "~")
          (namedRequest (some (Settings.default (Path.ofLocation ["home"]))))).outcome :=
    Traced.bind_outcome _ _ _ tilde_settings_at_home
  rw [described]
  intro same
  have languages := congrArg (fun outcome =>
    outcome.toOption.map fun facts : WideFacts => facts.options.language) same
  revert languages
  decide +kernel

end Workspace

end ReadmePress
