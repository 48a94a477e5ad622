import ReadmePress.Proofs.Facts.OwnSettings

/-!
A root directory of files and links, without directories and without settings, as working
directory. The facts about the project in it are those that default settings collect.
-/

namespace ReadmePress

open ReadmePress.Text

namespace Workspace

/-- A root directory with these entries and no other surroundings. -/
def rootOf (entries : List (String × Node)) : Workspace :=
  { files := .directory entries
    workingDirectory := []
    home := "/home"
    accounts := [] }

/-- The working directory is the root, and these are its entries. -/
structure IsFlat (workspace : Workspace) (entries : List (String × Node)) : Prop where
  files : workspace.files = .directory entries
  atRoot : workspace.workingDirectory = []
  distinct : (entries.map Prod.fst).Nodup
  components : ∀ name ∈ entries.map Prod.fst, IsComponent name ∧ '\x00' ∉ name.toList
  leaves : ∀ entry ∈ entries, entry.2.isDirectory = false
  noSettings : Settings.fileName ∉ entries.map Prod.fst

theorem root_is_plain_path :
    ¬ (Path.ofLocation []).NamesHome ∧ (Path.ofLocation []).name ≠ Settings.fileName := by
  refine ⟨?_, by decide⟩
  rintro ⟨isRelative, -⟩
  cases isRelative

theorem root_arrives (workspace : Workspace) :
    workspace.arrive true (Path.ofLocation []) = .ok (.existing []) := rfl

namespace IsFlat

variable {workspace : Workspace} {entries : List (String × Node)}
  (flat : workspace.IsFlat entries)

include flat

theorem isRoot : workspace.files.entryAt? [] = some .directory := by
  rw [flat.files]
  rfl

theorem real : workspace.IsReal where
  onDisk := by
    rw [flat.files]
    exact Node.directory_on_disk entries flat.distinct flat.components fun entry member =>
      Node.leaf_on_disk entry.2 (flat.leaves entry member)
  working := by
    rw [flat.atRoot]
    exact flat.isRoot
  workingNames := by
    rw [flat.atRoot]
    exact fun _ member => absurd member List.not_mem_nil

theorem settings_absent : workspace.files.entryAt? [Settings.fileName] = none := by
  have notFound : OrderedMap.find? entries Settings.fileName = none := by
    cases found : OrderedMap.find? entries Settings.fileName with
    | none => rfl
    | some node =>
        have member := OrderedMap.mem_of_find entries Settings.fileName node found
        exact absurd (List.mem_map_of_mem member) flat.noSettings
  rw [flat.files]
  simp [Node.entryAt?, Node.node?, notFound]

/-- No link is on the way to the settings, so their path is as short as it looks. -/
theorem settings_fit : workspace.wayBytes (Settings.pathIn (Path.ofLocation [])) < pathLimit := by
  have stops : stretch workspace.files true [] [Settings.fileName] =
      .arrived (.missing [] Settings.fileName) := by
    rw [stretch_step, hop, if_pos flat.isRoot, if_neg (by decide), if_neg (by decide),
      if_neg (by decide), List.nil_append, flat.settings_absent]
    rfl
  have start : workspace.startOf (Settings.pathIn (Path.ofLocation [])).isAbsolute = [] := rfl
  have names : (Settings.pathIn (Path.ofLocation [])).components = [Settings.fileName] := rfl
  have noTargets : targetsMet workspace.files linkLimit [] [Settings.fileName] = [] := by
    rw [targetsMet, stops]
  rw [wayBytes, targetsOnWay, start, names, noTargets]
  decide

theorem settings_place :
    workspace.SettingsPlace (Path.ofLocation []) (Path.ofLocation [Settings.fileName])
        (Path.ofLocation []) ∧
      workspace.holds (Path.ofLocation [Settings.fileName]) = .ok false :=
  absent_settings_place _ flat.real _ root_is_plain_path.1 root_is_plain_path.2 flat.settings_fit
    [] (root_arrives workspace) flat.isRoot flat.settings_absent

/-- What is collected is what default settings collect. -/
theorem facts (request : FactsRequest) :
    (workspace.collectFacts (Path.ofLocation []) { request with settings := none }).outcome =
      (workspace.collectFacts (Path.ofLocation [])
        { request with settings := some (Settings.default (Path.ofLocation [])) }).outcome := by
  have taken := (own_settings_absent _ flat.real (Path.ofLocation []) root_is_plain_path.1
    root_is_plain_path.2 flat.settings_fit [] (root_arrives workspace) flat.isRoot
    flat.settings_absent).2
  rw [collect_with_settings, taken]

end IsFlat

end Workspace

end ReadmePress
