import ReadmePress.FileSystem.Writing
import ReadmePress.Proofs.FileSystem.Resolution

/-!
What writing does to a tree, seen place by place. Creating the directories above a path only adds
directories, and each of them is what one of the paths above leads to in the end; writing a file
changes the one place that the path leads to. Both keep what path resolution relies on, so a path
that has been resolved once is resolved the same way afterwards.
-/

namespace ReadmePress

open ReadmePress.Text

/-- The second tree is the first one and some new directories of one kind. -/
def Node.AddsOnly (before after : Node) (fresh : Location → Prop) : Prop :=
  ∀ location, after.entryAt? location = before.entryAt? location ∨
    (before.entryAt? location = none ∧ after.entryAt? location = some .directory ∧
      fresh location)

namespace Node

theorem adds_nothing (files : Node) (fresh : Location → Prop) : files.AddsOnly files fresh :=
  fun _ => Or.inl rfl

theorem adds_then_adds (before between after : Node) (first second fresh : Location → Prop)
    (firstAdds : before.AddsOnly between first) (secondAdds : between.AddsOnly after second)
    (firstFresh : ∀ location, first location → fresh location)
    (secondFresh : ∀ location, second location → fresh location) :
    before.AddsOnly after fresh := by
  intro location
  rcases secondAdds location with same | ⟨absent, added, isFresh⟩
  · rcases firstAdds location with sameBefore | ⟨absent, added, isFresh⟩
    · exact Or.inl (same.trans sameBefore)
    · exact Or.inr ⟨absent, same.trans added, firstFresh location isFresh⟩
  · rcases firstAdds location with sameBefore | ⟨_, present, _⟩
    · exact Or.inr ⟨sameBefore.symm.trans absent, added, secondFresh location isFresh⟩
    · simp [present] at absent

theorem kept_of_adds (before after : Node) (fresh : Location → Prop)
    (adds : before.AddsOnly after fresh) : before.KeptIn after := by
  have keeps : ∀ location entry, before.entryAt? location = some entry →
      after.entryAt? location = some entry := by
    intro location entry found
    rcases adds location with same | ⟨absent, _, _⟩
    · exact same.trans found
    · simp [found] at absent
  exact
    { directory := fun location found => keeps location _ found
      link := fun location target found => keeps location _ found
      file := fun location content found => ⟨content, keeps location _ found⟩ }

theorem kept_of_put_file (files : Node) (location : Location) (content : List UInt8)
    (room : files.HasRoom location)
    (replaced : files.entryAt? location = none ∨
      ∃ previous, files.entryAt? location = some (.file previous)) :
    files.KeptIn (files.put location (.file content)) ∧
      ∀ other, (files.put location (.file content)).entryAt? other =
        if other = location then some (.file content) else files.entryAt? other := by
  have bare : files.IsBare location := by
    rcases replaced with absent | ⟨previous, found⟩
    · exact bare_of_absent files location absent
    · exact bare_of_file files location previous found
  have changed := fun other =>
    entry_at_put files (.file content) location other room bare (file_is_bare content)
  refine ⟨⟨?_, ?_, ?_⟩, changed⟩
  · intro other found
    rw [changed, if_neg, found]
    rintro rfl
    simp [found] at replaced
  · intro other target found
    rw [changed, if_neg, found]
    rintro rfl
    simp [found] at replaced
  · intro other previous found
    rw [changed]
    split
    · exact ⟨content, rfl⟩
    · exact ⟨previous, found⟩

end Node

/-- The path that ends after so many components of a path. -/
def Path.upTo (path : Path) (count : Nat) : Path :=
  { path with components := path.components.take count }

namespace Workspace

/-- A path, or a part of it from its start, leads to a place; the empty part does not count. -/
def OnTheWay (workspace : Workspace) (path : Path) (location : Location) : Prop :=
  ∃ count, 0 < count ∧ count ≤ path.components.length ∧
    workspace.arrive true (path.upTo count) = .ok (.existing location)

theorem up_to_all (path : Path) : path.upTo path.components.length = path := by
  simp [Path.upTo]

theorem up_to_parent (path : Path) (count : Nat)
    (shorter : count ≤ path.parent.components.length) :
    path.parent.upTo count = path.upTo count := by
  simp only [Path.parent, List.length_dropLast] at shorter
  simp only [Path.upTo, Path.parent, List.dropLast_eq_take, List.take_take]
  rw [Nat.min_eq_left shorter]

theorem on_the_way_of_parent (workspace : Workspace) (path : Path) (location : Location)
    (above : workspace.OnTheWay path.parent location) :
    ∃ count, 0 < count ∧ count < path.components.length ∧
      workspace.arrive true (path.upTo count) = .ok (.existing location) := by
  obtain ⟨count, positive, bound, leads⟩ := above
  rw [up_to_parent path count bound] at leads
  refine ⟨count, positive, ?_, leads⟩
  simp only [Path.parent, List.length_dropLast] at bound
  omega

/-- A new directory is put under a missing name, or nothing changes. -/
theorem make_directory_cases (workspace : Workspace) (path : Path) :
    (∃ fault, workspace.makeDirectory path =
      { outcome := .error fault, files := workspace.files }) ∨
      ∃ directory name, workspace.arrive false path = .ok (.missing directory name) ∧
        workspace.makeDirectory path =
          { outcome := .ok ()
            files := workspace.files.put (directory ++ [name]) (.directory []) } := by
  unfold makeDirectory
  split
  next fault refused => exact Or.inl ⟨fault, rfl⟩
  next location existing => exact Or.inl ⟨_, rfl⟩
  next directory name missing => exact Or.inr ⟨directory, name, missing, rfl⟩

/-- A new directory stands where the path leads, and nothing else is new. -/
theorem created_directory (workspace : Workspace) (path : Path) (directory : Location)
    (name : String) (missing : workspace.arrive false path = .ok (.missing directory name)) :
    let after := workspace.files.put (directory ++ [name]) (.directory [])
    (workspace.files.AddsOnly after fun location => location = directory ++ [name]) ∧
      after.entryAt? (directory ++ [name]) = some .directory ∧
      (workspace.withFiles after).arrive true path = .ok (.existing (directory ++ [name])) := by
  intro after
  obtain ⟨isDirectory, absent⟩ := arrive_missing workspace false path directory name missing
  have room : workspace.files.HasRoom (directory ++ [name]) := by
    apply Or.inr
    rw [List.dropLast_concat]
    exact isDirectory
  have changed := fun other =>
    Node.entry_at_put workspace.files (.directory []) (directory ++ [name]) other room
      (Node.bare_of_absent _ _ absent) Node.empty_directory_is_bare
  have stands : after.entryAt? (directory ++ [name]) = some .directory := by
    rw [changed, if_pos rfl]
    rfl
  have adds : workspace.files.AddsOnly after fun location => location = directory ++ [name] := by
    intro other
    by_cases same : other = directory ++ [name]
    · rw [same]
      exact Or.inr ⟨absent, stands, rfl⟩
    · rw [changed, if_neg same]
      exact Or.inl rfl
  have leads := arrive_filled workspace after (Node.kept_of_adds _ _ _ adds) true path directory
    name (arrive_follow_missing workspace path directory name missing) .directory stands (by simp)
  exact ⟨adds, stands, leads⟩

theorem make_directory_adds (workspace : Workspace) (path : Path) :
    workspace.files.AddsOnly (workspace.makeDirectory path).files
      ((workspace.withFiles (workspace.makeDirectory path).files).OnTheWay path) := by
  rcases make_directory_cases workspace path with
    ⟨fault, refused⟩ | ⟨directory, name, missing, created⟩
  · rw [refused]
    exact Node.adds_nothing _ _
  · rw [created]
    obtain ⟨adds, -, leads⟩ := created_directory workspace path directory name missing
    intro other
    rcases adds other with same | ⟨absentBefore, added, rfl⟩
    · exact Or.inl same
    · refine Or.inr ⟨absentBefore, added, path.components.length, ?_, Nat.le_refl _, ?_⟩
      · exact components_of_missing workspace false path directory name missing
      · rw [up_to_all]
        exact leads

theorem ensure_directory_files (workspace : Workspace) (path : Path) :
    (workspace.ensureDirectory path).files = (workspace.makeDirectory path).files := by
  simp only [ensureDirectory]
  split <;> rfl

/-- Creating a directory with all that lead to it only adds directories on the way. -/
theorem make_parents_adds (workspace : Workspace) (ancestors : Nat) (path : Path) :
    workspace.files.AddsOnly (workspace.makeParents ancestors path).files
      ((workspace.withFiles (workspace.makeParents ancestors path).files).OnTheWay path) := by
  induction ancestors generalizing path with
  | zero =>
      rw [makeParents, ensure_directory_files]
      exact make_directory_adds workspace path
  | succ ancestors induction =>
      simp only [makeParents]
      split
      · exact make_directory_adds workspace path
      · split
        · exact make_directory_adds workspace path
        · split
          next fault refused =>
            refine Node.adds_then_adds _ _ _ _ _ _ (induction path.parent)
              (Node.adds_nothing _ fun _ => False) ?_ (fun _ impossible => impossible.elim)
            intro location above
            obtain ⟨count, positive, bound, leads⟩ := on_the_way_of_parent _ path location above
            exact ⟨count, positive, Nat.le_of_lt bound, leads⟩
          next created =>
            -- What the first creations lead to, the last one still leads to.
            rw [ensure_directory_files]
            have lastAdds := make_directory_adds
              (workspace.withFiles (workspace.makeParents ancestors path.parent).files) path
            refine Node.adds_then_adds _ _ _ _ _ _ (induction path.parent) lastAdds ?_
              (fun _ onTheWay => onTheWay)
            intro location above
            obtain ⟨count, positive, bound, leads⟩ := on_the_way_of_parent _ path location above
            exact ⟨count, positive, Nat.le_of_lt bound,
              arrive_kept _ _ (Node.kept_of_adds _ _ _ lastAdds) _ _ _ leads⟩
      · exact make_directory_adds workspace path

theorem make_directories_adds (workspace : Workspace) (path : Path) :
    workspace.files.AddsOnly (workspace.makeDirectories path).files
      ((workspace.withFiles (workspace.makeDirectories path).files).OnTheWay path) :=
  make_parents_adds workspace path.components.length path

/-- The tree after the file that a path leads to has been given another content. -/
structure Refills (workspace : Workspace) (path : Path) (content : List UInt8) (after : Node)
    (location : Location) : Prop where
  leads : (workspace.withFiles after).arrive true path = .ok (.existing location)
  replaced : workspace.files.entryAt? location = none ∨
    ∃ previous, workspace.files.entryAt? location = some (.file previous)
  kept : workspace.files.KeptIn after
  changed : ∀ other, after.entryAt? other =
    if other = location then some (.file content) else workspace.files.entryAt? other

theorem refills_of_existing (workspace : Workspace) (path : Path)
    (content previous : List UInt8) (location : Location)
    (arrived : workspace.arrive true path = .ok (.existing location))
    (found : workspace.files.node? location = some (.file previous)) :
    workspace.Refills path content (workspace.files.put location (.file content)) location := by
  have isFile := (Node.entry_at_eq_file_iff _ _ _).mpr found
  have room := Node.room_of_found _ _ _ isFile
  obtain ⟨kept, changed⟩ := Node.kept_of_put_file workspace.files location content room
    (Or.inr ⟨previous, isFile⟩)
  exact
    { leads := arrive_kept workspace _ kept true path location arrived
      replaced := Or.inr ⟨previous, isFile⟩
      kept := kept
      changed := changed }

theorem refills_of_missing (workspace : Workspace) (path : Path) (content : List UInt8)
    (directory : Location) (name : String)
    (arrived : workspace.arrive true path = .ok (.missing directory name)) :
    workspace.Refills path content
      (workspace.files.put (directory ++ [name]) (.file content)) (directory ++ [name]) := by
  obtain ⟨isDirectory, absent⟩ := arrive_missing workspace true path directory name arrived
  have room : workspace.files.HasRoom (directory ++ [name]) := by
    apply Or.inr
    rw [List.dropLast_concat]
    exact isDirectory
  obtain ⟨kept, changed⟩ := Node.kept_of_put_file workspace.files (directory ++ [name]) content
    room (Or.inl absent)
  have filled := changed (directory ++ [name])
  rw [if_pos rfl] at filled
  exact
    { leads := arrive_filled workspace _ kept true path directory name arrived _ filled
        (by simp)
      replaced := Or.inl absent
      kept := kept
      changed := changed }

/-- Writing bytes refills the file that the path leads to, or changes nothing. -/
theorem write_bytes_cases (workspace : Workspace) (path : Path) (content : List UInt8) :
    (∃ fault, workspace.writeBytes path content =
      { outcome := .error fault, files := workspace.files }) ∨
      ((workspace.writeBytes path content).outcome = .ok () ∧
        ∃ location,
          workspace.Refills path content (workspace.writeBytes path content).files location) := by
  unfold writeBytes
  split
  next fault refused => exact Or.inl ⟨fault, rfl⟩
  next directory name missing =>
    exact Or.inr ⟨rfl, _, refills_of_missing workspace path content directory name missing⟩
  next location existing =>
    split
    next previous found =>
      exact Or.inr
        ⟨rfl, _, refills_of_existing workspace path content previous location existing found⟩
    next noFile => exact Or.inl ⟨_, rfl⟩

/-- A part of a path from its start, the whole path apart, leads to a place. -/
def IsAncestor (workspace : Workspace) (path : Path) (location : Location) : Prop :=
  ∃ count, count < path.components.length ∧
    workspace.arrive true (path.upTo count) = .ok (.existing location)

theorem ancestor_of_parent (workspace : Workspace) (path : Path) (location : Location)
    (above : workspace.OnTheWay path.parent location) : workspace.IsAncestor path location := by
  obtain ⟨count, _, bound, leads⟩ := on_the_way_of_parent workspace path location above
  exact ⟨count, bound, leads⟩

/-- The surroundings after a text has been written to a path: the file that the path leads to
has just these bytes, it was a file or missing before, and apart from it there are only new
directories that the path leads through. -/
structure Written (before after : Workspace) (path : Path) (content : List UInt8)
    (location : Location) : Prop where
  leads : after.arrive true path = .ok (.existing location)
  holds : after.files.entryAt? location = some (.file content)
  replaced : before.files.entryAt? location = none ∨
    ∃ previous, before.files.entryAt? location = some (.file previous)
  elsewhere : ∀ other, other ≠ location →
    after.files.entryAt? other = before.files.entryAt? other ∨
      (before.files.entryAt? other = none ∧ after.files.entryAt? other = some .directory ∧
        after.IsAncestor path other)

/-- Refilling a file after new directories have been added is writing it. -/
theorem written_of_refills (workspace : Workspace) (between after : Node) (path : Path)
    (content : List UInt8) (location : Location)
    (adds : workspace.files.AddsOnly between
      ((workspace.withFiles between).IsAncestor path))
    (refills : (workspace.withFiles between).Refills path content after location) :
    workspace.Written (workspace.withFiles after) path content location := by
  refine ⟨refills.leads, ?_, ?_, ?_⟩
  · simp [refills.changed]
  · rcases adds location with same | ⟨absent, -, -⟩
    · rw [← same]
      exact refills.replaced
    · exact Or.inl absent
  · intro other different
    have untouched : after.entryAt? other = between.entryAt? other := by
      rw [refills.changed, if_neg different, files_with_files]
    rw [files_with_files, untouched]
    rcases adds other with same | ⟨absent, added, count, bound, leads⟩
    · exact Or.inl same
    · refine Or.inr ⟨absent, added, count, bound, ?_⟩
      exact arrive_kept (workspace.withFiles between) after refills.kept true _ other leads

/-- Writing a text writes its bytes where the path leads, or only adds directories that the path
leads through. -/
theorem write_text_cases (workspace : Workspace) (path : Path) (content : String) :
    let change := workspace.writeText path content
    let after := workspace.withFiles change.files
    (∃ fault, change.outcome = .error fault ∧
      workspace.files.AddsOnly change.files (after.IsAncestor path)) ∨
      (change.outcome = .ok (encodeUtf8 content.toList).length ∧
        ∃ location,
          workspace.Written after path (encodeUtf8 content.toList) location) := by
  intro change after
  have adds : workspace.files.AddsOnly (workspace.makeDirectories path.parent).files
      ((workspace.withFiles (workspace.makeDirectories path.parent).files).IsAncestor path) :=
    Node.adds_then_adds _ _ _ _ (fun _ => False) _ (make_directories_adds workspace path.parent)
      (Node.adds_nothing _ _) (fun location above => ancestor_of_parent _ path location above)
      (fun _ impossible => impossible.elim)
  simp only [change, after, writeText]
  split
  next fault refused => exact Or.inl ⟨fault, rfl, adds⟩
  next created =>
    rcases write_bytes_cases
        (workspace.withFiles (workspace.makeDirectories path.parent).files) path
        (encodeUtf8 content.toList) with ⟨fault, refused⟩ | ⟨done, location, refills⟩
    · rw [withFiles] at refused
      rw [refused]
      exact Or.inl ⟨fault, rfl, adds⟩
    · refine Or.inr ⟨?_, location, written_of_refills workspace _ _ path _ location adds refills⟩
      rw [withFiles] at done
      rw [done]
      rfl

end Workspace

end ReadmePress
