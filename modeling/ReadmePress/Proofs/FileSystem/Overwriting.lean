import ReadmePress.Proofs.FileSystem.Shape
import ReadmePress.Proofs.FileSystem.Writing

/-!
Writing to a path a second time. After one writing the directory of the path exists and the path
leads to a file, so every further writing creates nothing and replaces the content of that file.
-/

namespace ReadmePress

open ReadmePress.Text

namespace Workspace

/-- A path that leads somewhere with a last link followed does so without. -/
theorem walk_unfollowed (files : Node) (links : Nat) (here : Location) (names : List String)
    (location : Location) (arrived : walk files true links here names = .ok (.existing location)) :
    ∃ place, walk files false links here names = .ok (.existing place) := by
  fun_induction walk files true links here names with
  | case1 links here names arrival reached =>
      obtain rfl : arrival = _ := by simpa using arrived
      rcases stretch_follow files here names with same | ⟨place, existing⟩
      · exact ⟨location, by rw [walk, ← same, reached]⟩
      · exact ⟨place, by rw [walk, existing]⟩
  | case2 links here names refusal refused => simp at arrived
  | case3 here names link target rest linked => simp at arrived
  | case4 here names link target rest linked left induction =>
      rcases stretch_follow files here names with same | ⟨place, existing⟩
      · obtain ⟨place, existing⟩ := induction arrived
        exact ⟨place, by rw [walk, ← same, linked]; exact existing⟩
      · exact ⟨place, by rw [walk, existing]⟩

theorem arrive_unfollowed (workspace : Workspace) (path : Path) (location : Location)
    (arrived : workspace.arrive true path = .ok (.existing location)) :
    ∃ place, workspace.arrive false path = .ok (.existing place) := by
  rw [arrive_ok_iff] at arrived
  obtain ⟨checked, walked⟩ := arrived
  obtain ⟨place, existing⟩ := walk_unfollowed _ _ _ _ _ walked
  exact ⟨place, (arrive_ok_iff workspace false path _).mpr ⟨checked, existing⟩⟩

theorem is_directory_kept (workspace : Workspace) (after : Node)
    (kept : workspace.files.KeptIn after) (path : Path)
    (isDirectory : workspace.isDirectory path = .ok true) :
    (workspace.withFiles after).isDirectory path = .ok true := by
  obtain ⟨location, entries, leads, found, -⟩ := directory_of_path workspace path isDirectory
  have entry := (Node.entry_at_eq_directory_iff _ _).mpr ⟨entries, found⟩
  rw [is_directory_eq, arrive_kept workspace after kept true path location leads]
  simp [kept.directory location entry]

theorem accept_directory_ok (workspace : Workspace) (path : Path) (fault : FileFault)
    (accepted : workspace.acceptDirectory path fault = .ok ()) :
    workspace.isDirectory path = .ok true := by
  unfold acceptDirectory at accepted
  cases fault with
  | embeddedNull => simp at accepted
  | refused refusal text =>
      cases answer : workspace.isDirectory path with
      | error fault => simp [answer, bind, Except.bind] at accepted
      | ok isDirectory =>
          cases isDirectory with
          | true => rfl
          | false => simp [answer, bind, Except.bind] at accepted

theorem make_directory_ok (workspace : Workspace) (path : Path)
    (made : (workspace.makeDirectory path).outcome = .ok ()) :
    (workspace.withFiles (workspace.makeDirectory path).files).isDirectory path = .ok true := by
  rcases make_directory_cases workspace path with
    ⟨fault, refused⟩ | ⟨directory, name, missing, created⟩
  · rw [refused] at made
    exact absurd made (by simp)
  · rw [created]
    obtain ⟨-, stands, leads⟩ := created_directory workspace path directory name missing
    rw [is_directory_eq, leads]
    simp [stands]

/-- A failure to create a directory is accepted where the directory exists. -/
theorem accepted_directory (workspace : Workspace) (path : Path) (fault : FileFault)
    (refused : (workspace.makeDirectory path).outcome = .error fault)
    (accepted : workspace.acceptDirectory path fault = .ok ()) :
    (workspace.withFiles (workspace.makeDirectory path).files).isDirectory path = .ok true := by
  have isDirectory := accept_directory_ok workspace path fault accepted
  rcases make_directory_cases workspace path with
    ⟨other, unchanged⟩ | ⟨directory, name, missing, created⟩
  · rw [unchanged]
    exact isDirectory
  · simp [created] at refused

theorem ensure_directory_ok (workspace : Workspace) (path : Path)
    (ensured : (workspace.ensureDirectory path).outcome = .ok ()) :
    (workspace.withFiles (workspace.ensureDirectory path).files).isDirectory path = .ok true := by
  rw [ensure_directory_files]
  simp only [ensureDirectory] at ensured
  split at ensured
  next made => exact make_directory_ok workspace path made
  next => exact absurd ensured (by simp)
  next fault notThere refused => exact accepted_directory workspace path fault refused ensured

/-- Where a directory has been created with all that lead to it, it exists. -/
theorem make_parents_ok (workspace : Workspace) (ancestors : Nat) (path : Path)
    (made : (workspace.makeParents ancestors path).outcome = .ok ()) :
    (workspace.withFiles (workspace.makeParents ancestors path).files).isDirectory path =
      .ok true := by
  cases ancestors with
  | zero => exact ensure_directory_ok workspace path made
  | succ ancestors =>
      simp only [makeParents] at made ⊢
      split at made
      next => exact make_directory_ok workspace path made
      next text absent =>
          split at made
          next => exact absurd made (by simp)
          next named =>
            rw [if_neg named]
            split at made
            next => exact absurd made (by simp)
            next => exact ensure_directory_ok _ path made
      next fault notAbsent refused => exact accepted_directory workspace path fault refused made

theorem make_directories_ok (workspace : Workspace) (path : Path)
    (made : (workspace.makeDirectories path).outcome = .ok ()) :
    (workspace.withFiles (workspace.makeDirectories path).files).isDirectory path = .ok true :=
  make_parents_ok workspace path.components.length path made

/-- A directory that exists is not created again. -/
theorem make_directories_again (workspace : Workspace) (path : Path)
    (isDirectory : workspace.isDirectory path = .ok true) :
    workspace.makeDirectories path = { outcome := .ok (), files := workspace.files } := by
  obtain ⟨location, -, leads, -, -⟩ := directory_of_path workspace path isDirectory
  obtain ⟨place, existing⟩ := arrive_unfollowed workspace path location leads
  have refused : workspace.makeDirectory path =
      { outcome := .error (.refused .alreadyExists path.text), files := workspace.files } := by
    rw [makeDirectory, existing]
  have accepted : workspace.acceptDirectory path (.refused .alreadyExists path.text) = .ok () := by
    simp [acceptDirectory, isDirectory, bind, Except.bind]
  unfold makeDirectories
  cases path.components.length with
  | zero => simp only [makeParents, ensureDirectory, refused, accepted]
  | succ ancestors => simp only [makeParents, refused, accepted]

/-- A path whose directory exists and that leads to a file. -/
structure Overwritable (workspace : Workspace) (path : Path) (location : Location) : Prop where
  directory : workspace.isDirectory path.parent = .ok true
  leads : workspace.arrive true path = .ok (.existing location)
  isFile : ∃ content, workspace.files.node? location = some (.file content)

/-- Writing to such a path replaces the content of the file, and nothing else happens. -/
theorem write_text_over (workspace : Workspace) (path : Path) (location : Location)
    (overwritable : workspace.Overwritable path location) (text : String) :
    workspace.writeText path text =
      { outcome := .ok (encodeUtf8 text.toList).length
        files := workspace.files.put location (.file (encodeUtf8 text.toList)) } := by
  obtain ⟨content, found⟩ := overwritable.isFile
  have directories := make_directories_again workspace path.parent overwritable.directory
  simp only [writeText, directories, writeBytes, overwritable.leads, found]
  rfl

theorem overwritable_of_refills (workspace : Workspace) (path : Path) (content : List UInt8)
    (after : Node) (location : Location)
    (isDirectory : workspace.isDirectory path.parent = .ok true)
    (refills : workspace.Refills path content after location) :
    (workspace.withFiles after).Overwritable path location ∧
      after.node? location = some (.file content) := by
  have holds : after.node? location = some (.file content) := by
    rw [← Node.entry_at_eq_file_iff, refills.changed, if_pos rfl]
  have directory := is_directory_kept workspace after refills.kept path.parent isDirectory
  exact ⟨⟨directory, refills.leads, content, holds⟩, holds⟩

/-- A path that has been written to can be written to again. -/
theorem overwritable_of_written (workspace : Workspace) (path : Path) (text : String) (size : Nat)
    (written : (workspace.writeText path text).outcome = .ok size) :
    ∃ location,
      (workspace.withFiles (workspace.writeText path text).files).Overwritable path location ∧
        (workspace.writeText path text).files.node? location =
          some (.file (encodeUtf8 text.toList)) := by
  simp only [writeText] at written ⊢
  split at written
  next => exact absurd written (by simp)
  next made =>
    have isDirectory := make_directories_ok workspace path.parent made
    rcases write_bytes_cases
        (workspace.withFiles (workspace.makeDirectories path.parent).files) path
        (encodeUtf8 text.toList) with ⟨fault, refused⟩ | ⟨done, location, refills⟩
    · rw [withFiles] at refused
      rw [refused] at written
      exact absurd written (by simp [Except.map])
    · exact ⟨location, overwritable_of_refills
        (workspace.withFiles (workspace.makeDirectories path.parent).files) path _ _ location
        isDirectory refills⟩

end Workspace

end ReadmePress
