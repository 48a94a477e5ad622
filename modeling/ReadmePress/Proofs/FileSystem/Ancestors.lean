import ReadmePress.Proofs.FileSystem.Overwriting

/-!
What leads to a place leads through a directory. Where a path with a last name leads somewhere,
the path without it names a directory, so a file that exists can be written again.
-/

namespace ReadmePress

open ReadmePress.Text

namespace Workspace

/-- The name after which a walk ends does not matter before it is due. -/
theorem hop_before_last (files : Node) (here : Location) (name last : String)
    (rest : List String) :
    (∃ place, hop files true here name rest = .onward place ∧
        hop files true here name (rest ++ [last]) = .onward place) ∨
      (∃ directory target, hop files true here name rest =
          .halted (.linked directory target rest) ∧
        hop files true here name (rest ++ [last]) =
          .halted (.linked directory target (rest ++ [last]))) ∨
      ∃ refusal, hop files true here name (rest ++ [last]) = .halted (.refused refusal) := by
  unfold hop
  split_ifs with isDirectory isDot isDots tooLong
  · exact Or.inl ⟨_, rfl, rfl⟩
  · exact Or.inl ⟨_, rfl, rfl⟩
  · exact Or.inr (Or.inr ⟨_, rfl⟩)
  · cases files.entryAt? (here ++ [name]) with
    | none => exact Or.inr (Or.inr ⟨.notFound, by simp [hopOnto]⟩)
    | some entry =>
        cases entry with
        | file content => exact Or.inl ⟨_, rfl, rfl⟩
        | directory => exact Or.inl ⟨_, rfl, rfl⟩
        | link target => exact Or.inr (Or.inl ⟨here, target, by simp [hopOnto], by simp [hopOnto]⟩)
  · exact Or.inr (Or.inr ⟨_, rfl⟩)

/-- Where names with a last one after them lead on, the names alone lead to a directory or to
the same link. -/
theorem stretch_before_last (files : Node) (here : Location) (names : List String)
    (last : String) :
    (∃ place, stretch files true here names = .arrived (.existing place) ∧
        files.entryAt? place = some .directory) ∨
      (∃ directory target rest, stretch files true here names = .linked directory target rest ∧
        stretch files true here (names ++ [last]) = .linked directory target (rest ++ [last])) ∨
      ∃ refusal, stretch files true here (names ++ [last]) = .refused refusal := by
  induction names generalizing here with
  | nil =>
      by_cases isDirectory : files.entryAt? here = some .directory
      · exact Or.inl ⟨here, rfl, isDirectory⟩
      · refine Or.inr (Or.inr ⟨.notDirectory, ?_⟩)
        rw [List.nil_append, stretch_step, hop, if_neg isDirectory]
  | cons name rest induction =>
      rw [List.cons_append, stretch_step, stretch_step]
      rcases hop_before_last files here name last rest with
        ⟨place, short, long⟩ | ⟨directory, target, short, long⟩ | ⟨refusal, long⟩
      · rw [short, long]
        exact induction place
      · rw [short, long]
        exact Or.inr (Or.inl ⟨directory, target, rest, rfl, rfl⟩)
      · rw [long]
        exact Or.inr (Or.inr ⟨refusal, rfl⟩)

theorem walk_before_last (files : Node) (links : Nat) (here : Location) (names : List String)
    (last : String) (location : Location)
    (arrived : walk files true links here (names ++ [last]) = .ok (.existing location)) :
    ∃ place, walk files true links here names = .ok (.existing place) ∧
      files.entryAt? place = some .directory := by
  rw [walk] at arrived
  rcases stretch_before_last files here names last with
    ⟨place, short, isDirectory⟩ | ⟨directory, target, rest, short, long⟩ | ⟨refusal, long⟩
  · exact ⟨place, by rw [walk, short], isDirectory⟩
  · rw [long] at arrived
    cases links with
    | zero => cases arrived
    | succ left =>
        -- The names of the link's target come first, so the last name is still the last one.
        simp only [← List.append_assoc] at arrived
        obtain ⟨place, walked, isDirectory⟩ := walk_before_last files left _ _ last location arrived
        exact ⟨place, by rw [walk, short]; exact walked, isDirectory⟩
  · rw [long] at arrived
    cases arrived

/-- The path of an entry begins with that of its directory, unless that one is empty. -/
theorem child_text (directory : Path) (name : String) :
    directory.text = "." ∨ ∃ tail, (directory.child name).text = directory.text ++ tail := by
  have whole : (directory.child name).text =
      Path.rootText directory.root ++ "/".intercalate (directory.components ++ [name]) := by
    simp [Path.text, Path.child]
  by_cases empty : (directory.root = .relative && directory.components.isEmpty) = true
  · exact Or.inl (by rw [Path.text, if_pos empty])
  · rw [whole, Path.text, if_neg empty]
    cases components : directory.components with
    | nil =>
        rw [String.intercalate_nil, List.nil_append, String.intercalate_singleton]
        exact Or.inr ⟨name, by rw [String.append_empty]⟩
    | cons first rest =>
        refine Or.inr ⟨"/" ++ name, ?_⟩
        rw [String.intercalate_append_of_ne_nil (List.cons_ne_nil _ _) (List.cons_ne_nil _ _),
          String.intercalate_singleton]
        simp only [String.append_assoc]

theorem checked_of_child (directory : Path) (name : String)
    (checked : ∃ text, checkedText (directory.child name) = .ok text) :
    ∃ text, checkedText directory = .ok text := by
  obtain ⟨text, checked⟩ := checked
  obtain ⟨-, noNull, fits⟩ := (checked_text_iff _ _).mp checked
  refine ⟨directory.text, (checked_text_iff _ _).mpr ⟨rfl, ?_⟩⟩
  rcases child_text directory name with isDot | ⟨tail, longer⟩
  · rw [isDot]
    decide
  · rw [longer, String.toList_append, List.mem_append, not_or] at noNull
    rw [longer, String.utf8ByteSize_append] at fits
    exact ⟨noNull.1, by omega⟩

/-- Where an entry of a directory is found the path of the directory names one. -/
theorem directory_of_child (workspace : Workspace) (directory : Path) (name : String)
    (location : Location)
    (leads : workspace.arrive true (directory.child name) = .ok (.existing location)) :
    workspace.isDirectory directory = .ok true := by
  obtain ⟨checked, walked⟩ := (arrive_ok_iff _ _ _ _).mp leads
  obtain ⟨place, reached, isDirectory⟩ := walk_before_last _ _ _ _ _ _ walked
  have above : workspace.arrive true directory = .ok (.existing place) :=
    (arrive_ok_iff _ _ _ _).mpr ⟨checked_of_child directory name checked, reached⟩
  rw [is_directory_eq, above]
  simp [isDirectory]

/-- A file that can be read can be written. -/
theorem overwritable_of_read (workspace : Workspace) (directory : Path) (name : String)
    (content : List UInt8) (read : workspace.readBytes (directory.child name) = .ok content) :
    ∃ location, workspace.Overwritable (directory.child name) location := by
  obtain ⟨location, found⟩ := (read_bytes_ok_iff _ _ _).mp read
  obtain ⟨leads, isFile⟩ := (look_up_ok_iff _ _ _ _ _).mp found
  have parent : (directory.child name).parent = directory := by
    simp [Path.parent, Path.child]
  exact ⟨location,
    { directory := by rw [parent]; exact directory_of_child workspace directory name location leads
      leads := leads
      isFile := ⟨content, isFile⟩ }⟩

end Workspace

end ReadmePress
