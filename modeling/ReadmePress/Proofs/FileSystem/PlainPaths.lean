import ReadmePress.Proofs.FileSystem.Standing

/-!
Paths in a tree without links, with no dots among their names. Such a path leads down name by name,
so where it ends is told by what stands on that one way: nothing or a directory at every place that
more names follow, and a file at the end at most.
-/

namespace ReadmePress

open ReadmePress.Text

namespace Node

def IsLinkFree (files : Node) : Prop :=
  ∀ location target, files.entryAt? location ≠ some (.link target)

/-- A place for a directory: there is one, or nothing. -/
def IsClear (files : Node) (location : Location) : Prop :=
  files.entryAt? location = none ∨ files.entryAt? location = some .directory

/-- Every place is as it was before, or there is a directory or a file. -/
def PutsNoLink (before after : Node) : Prop :=
  ∀ location, after.entryAt? location = before.entryAt? location ∨
    after.entryAt? location = some .directory ∨
    ∃ content, after.entryAt? location = some (.file content)

/-- From a place on, these names can be the names of directories, each in the one before. -/
structure Admits (files : Node) (here : Location) (names : List String) : Prop where
  short : ∀ name ∈ names, name.utf8ByteSize ≤ Workspace.nameLimit
  clear : ∀ way, way <+: names → files.IsClear (here ++ way)

/-- All the directories that names admit from a place on exist. -/
def IsSettled (files : Node) (here : Location) (names : List String) : Prop :=
  ∀ way, way <+: names → files.Admits here way → files.entryAt? (here ++ way) ≠ none

theorem directory_of_clear (files : Node) (location : Location) (clear : files.IsClear location)
    (found : files.entryAt? location ≠ none) : files.entryAt? location = some .directory :=
  clear.resolve_left found

/-- Where nothing stands nothing stands below. -/
theorem nothing_below (files : Node) (front back : Location)
    (nothing : files.entryAt? front = none) : files.entryAt? (front ++ back) = none := by
  cases back with
  | nil => rwa [List.append_nil]
  | cons name rest => exact files.bare_of_absent front nothing name rest

variable {files : Node} {here : Location} {names : List String}

theorem Admits.before (admits : files.Admits here names) (way : List String)
    (starts : way <+: names) : files.Admits here way where
  short name member := admits.short name (starts.subset member)
  clear more startsMore := admits.clear more (startsMore.trans starts)

theorem admits_step (files : Node) (here : Location) (name : String) (rest : List String) :
    files.Admits here (name :: rest) ↔
      files.IsClear here ∧ name.utf8ByteSize ≤ Workspace.nameLimit ∧
        files.Admits (here ++ [name]) rest := by
  constructor
  · intro admits
    refine ⟨?_, admits.short name List.mem_cons_self, ?_, ?_⟩
    · simpa using admits.clear [] List.nil_prefix
    · exact fun other member => admits.short other (List.mem_cons_of_mem _ member)
    · intro way starts
      rw [List.append_assoc]
      exact admits.clear (name :: way) (List.cons_prefix_cons.mpr ⟨rfl, starts⟩)
  · rintro ⟨clear, short, admits⟩
    refine ⟨List.forall_mem_cons.mpr ⟨short, admits.short⟩, ?_⟩
    intro way starts
    rcases List.prefix_cons_iff.mp starts with rfl | ⟨more, rfl, inRest⟩
    · rwa [List.append_nil]
    · rw [List.append_cons]
      exact admits.clear more inRest

theorem admits_last (files : Node) (here : Location) (front : List String) (last : String) :
    files.Admits here (front ++ [last]) ↔
      files.Admits here front ∧ last.utf8ByteSize ≤ Workspace.nameLimit ∧
        files.IsClear (here ++ (front ++ [last])) := by
  constructor
  · intro admits
    exact ⟨admits.before front (List.prefix_append _ _), admits.short last (by simp),
      admits.clear _ (List.prefix_refl _)⟩
  · rintro ⟨admits, short, clear⟩
    refine ⟨?_, ?_⟩
    · intro name member
      rcases List.mem_append.mp member with inFront | isLast
      · exact admits.short name inFront
      · rwa [List.mem_singleton.mp isLast]
    · intro way starts
      rcases List.prefix_concat_iff.mp starts with rfl | inFront
      · exact clear
      · exact admits.clear way inFront

/-- The names that lead to a directory are admitted if they are short enough. -/
theorem admits_of_directory (files : Node) (here : Location) (names : List String)
    (short : ∀ name ∈ names, name.utf8ByteSize ≤ Workspace.nameLimit)
    (isDirectory : files.entryAt? (here ++ names) = some .directory) :
    files.Admits here names := by
  induction names using List.reverseRecOn with
  | nil => exact ⟨short, fun way starts => by
      rw [List.prefix_nil.mp starts]
      exact Or.inr isDirectory⟩
  | append_singleton front last induction =>
      have above : files.entryAt? (here ++ front) = some .directory := by
        apply files.directory_above (here ++ front) last .directory
        rwa [List.append_assoc]
      have shortFront := fun name member => short name (List.mem_append_left _ member)
      exact (admits_last files here front last).mpr
        ⟨induction shortFront above, short last (by simp), Or.inr isDirectory⟩

/-- Where something stands at the end of the names, nothing is left to be made on the way. -/
theorem settled_of_found (files : Node) (here : Location) (names : List String)
    (found : files.entryAt? (here ++ names) ≠ none) : files.IsSettled here names := by
  rintro way ⟨rest, rfl⟩ - nothing
  rw [← List.append_assoc] at found
  exact found (files.nothing_below _ rest nothing)

end Node

namespace Workspace

/-- Where names lead in a tree without links: to a place, to a missing last name, nowhere because
their directory is missing, or nowhere because of what exists already. -/
inductive PlainEnd (files : Node) (here : Location) (names : List String) :
    Except Refusal Arrival → Prop
  | existing (short : ∀ name ∈ names, name.utf8ByteSize ≤ nameLimit)
      (found : files.entryAt? (here ++ names) ≠ none) :
      PlainEnd files here names (.ok (.existing (here ++ names)))
  | missing (front : List String) (name : String) (isLast : names = front ++ [name])
      (short : ∀ name ∈ names, name.utf8ByteSize ≤ nameLimit)
      (above : files.entryAt? (here ++ front) = some .directory)
      (nothing : files.entryAt? (here ++ names) = none) :
      PlainEnd files here names (.ok (.missing (here ++ front) name))
  | absent (nothing : files.entryAt? (here ++ names.dropLast) = none) :
      PlainEnd files here names (.error .notFound)
  | closed (refusal : Refusal) (present : refusal ≠ .notFound) (named : names ≠ [])
      (refuses : files.Admits here names.dropLast →
        ¬ ∀ name ∈ names, name.utf8ByteSize ≤ nameLimit)
      (settled : files.IsSettled here names) : PlainEnd files here names (.error refusal)

section Walking

variable (files : Node) (followLast : Bool) (links : Nat) (here : Location) (name : String)
  (rest : List String)

theorem walk_onward (place : Location)
    (onward : hop files followLast here name rest = .onward place) :
    walk files followLast links here (name :: rest) = walk files followLast links place rest := by
  rw [walk, walk, stretch_step, onward]

theorem walk_refused (refusal : Refusal)
    (halted : hop files followLast here name rest = .halted (.refused refusal)) :
    walk files followLast links here (name :: rest) = .error refusal := by
  rw [walk, stretch_step, halted]

theorem walk_arrived (arrival : Arrival)
    (halted : hop files followLast here name rest = .halted (.arrived arrival)) :
    walk files followLast links here (name :: rest) = .ok arrival := by
  rw [walk, stretch_step, halted]

/-- A name that leads to something leads to where the names after it end. -/
theorem PlainEnd.after {files : Node} {here : Location} {name : String} {rest : List String}
    {result : Except Refusal Arrival} (ends : PlainEnd files (here ++ [name]) rest result)
    (short : name.utf8ByteSize ≤ nameLimit) (isDirectory : files.entryAt? here = some .directory)
    (found : files.entryAt? (here ++ [name]) ≠ none) :
    PlainEnd files here (name :: rest) result := by
  cases ends with
  | existing shortRest reached =>
      rw [← List.append_cons] at reached ⊢
      exact .existing (List.forall_mem_cons.mpr ⟨short, shortRest⟩) reached
  | missing front last isLast shortRest above nothing =>
      rw [← List.append_cons] at above nothing ⊢
      exact .missing (name :: front) last (by rw [isLast, List.cons_append])
        (List.forall_mem_cons.mpr ⟨short, shortRest⟩) above nothing
  | absent nothing =>
      cases rest with
      | nil => exact absurd nothing (by simpa using found)
      | cons next more =>
          apply PlainEnd.absent
          rwa [List.dropLast_cons_cons, List.append_cons]
  | closed refusal present named refuses settled =>
      refine .closed refusal present (List.cons_ne_nil _ _) ?_ ?_
      · intro admits shortAll
        obtain ⟨next, more, rfl⟩ := List.exists_cons_of_ne_nil named
        rw [List.dropLast_cons_cons, Node.admits_step] at admits
        exact refuses admits.2.2 (List.forall_mem_cons.mp shortAll).2
      · intro way starts admits
        rcases List.prefix_cons_iff.mp starts with rfl | ⟨more, rfl, inRest⟩
        · simp [isDirectory]
        · rw [List.append_cons]
          exact settled more inRest ((Node.admits_step _ _ _ _).mp admits).2.2

section Halting

variable (found : files.entryAt? here ≠ none)

include found

/-- Nowhere is left to go where something stands that is no directory. -/
theorem plain_end_no_directory (isFile : files.entryAt? here ≠ some .directory) :
    PlainEnd files here (name :: rest) (.error .notDirectory) := by
  have notClear (way : List String) : ¬ files.Admits here way := by
    intro admits
    have clear := admits.clear [] List.nil_prefix
    rw [List.append_nil] at clear
    exact isFile (files.directory_of_clear here clear found)
  exact .closed _ (by simp) (List.cons_ne_nil _ _) (fun admits => absurd admits (notClear _))
    fun way _ admits => absurd admits (notClear way)

theorem plain_end_too_long (tooLong : nameLimit < name.utf8ByteSize) :
    PlainEnd files here (name :: rest) (.error .nameTooLong) := by
  refine .closed _ (by simp) (List.cons_ne_nil _ _) ?_ ?_
  · intro _ short
    exact absurd (short name List.mem_cons_self) (Nat.not_le.mpr tooLong)
  · intro way starts admits
    rcases List.prefix_cons_iff.mp starts with rfl | ⟨more, rfl, -⟩
    · simpa using found
    · exact absurd (admits.short name List.mem_cons_self) (Nat.not_le.mpr tooLong)

end Halting

/-- A name that is missing in a directory ends the walk, well if it is the last one. -/
theorem walk_plain_missing (isDirectory : files.entryAt? here = some .directory)
    (short : name.utf8ByteSize ≤ nameLimit) (nothing : files.entryAt? (here ++ [name]) = none)
    (step : hop files followLast here name rest = hopOnto followLast here name rest none) :
    PlainEnd files here (name :: rest) (walk files followLast links here (name :: rest)) := by
  cases rest with
  | nil =>
      rw [walk_arrived _ _ _ _ _ _ _ step]
      have ends : PlainEnd files here [name] (.ok (.missing (here ++ []) name)) :=
        .missing [] name rfl (by simpa using short) (by simpa using isDirectory) nothing
      rwa [List.append_nil] at ends
  | cons next more =>
      rw [walk_refused _ _ _ _ _ _ _ step]
      apply PlainEnd.absent
      rw [List.dropLast_cons_cons, List.append_cons]
      exact files.nothing_below _ _ nothing

theorem walk_plain (names : List String) (linkFree : files.IsLinkFree)
    (plain : ∀ name ∈ names, name ≠ "." ∧ name ≠ "..") (found : files.entryAt? here ≠ none) :
    PlainEnd files here names (walk files followLast links here names) := by
  induction names generalizing here with
  | nil =>
      have ends : PlainEnd files here [] (.ok (.existing (here ++ []))) :=
        .existing (by simp) (by simpa using found)
      rw [walk, stretch_at_end]
      rwa [List.append_nil] at ends
  | cons name rest induction =>
      obtain ⟨⟨notDot, notDots⟩, plainRest⟩ := List.forall_mem_cons.mp plain
      by_cases isDirectory : files.entryAt? here = some .directory
      · by_cases tooLong : nameLimit < name.utf8ByteSize
        · have halted : hop files followLast here name rest = .halted (.refused .nameTooLong) := by
            rw [hop, if_pos isDirectory, if_neg notDot, if_neg notDots, if_pos tooLong]
          rw [walk_refused _ _ _ _ _ _ _ halted]
          exact plain_end_too_long files here name rest found tooLong
        · have short := Nat.not_lt.mp tooLong
          have step : hop files followLast here name rest =
              hopOnto followLast here name rest (files.entryAt? (here ++ [name])) := by
            rw [hop, if_pos isDirectory, if_neg notDot, if_neg notDots, if_neg tooLong]
          cases stands : files.entryAt? (here ++ [name]) with
          | none =>
              rw [stands] at step
              exact walk_plain_missing files followLast links here name rest isDirectory short
                stands step
          | some entry =>
              have reached : files.entryAt? (here ++ [name]) ≠ none := by simp [stands]
              have onward : hop files followLast here name rest = .onward (here ++ [name]) := by
                rw [step, stands]
                cases entry with
                | file content => rfl
                | directory => rfl
                | link target => exact absurd stands (linkFree _ _)
              rw [walk_onward _ _ _ _ _ _ _ onward]
              exact (induction _ plainRest reached).after short isDirectory reached
      · have halted : hop files followLast here name rest = .halted (.refused .notDirectory) := by
          rw [hop, if_neg isDirectory]
        rw [walk_refused _ _ _ _ _ _ _ halted]
        exact plain_end_no_directory files here name rest found isDirectory

end Walking

/-- A path without dots that is followed in a tree without links, from a place that exists. -/
structure LeadsPlainly (workspace : Workspace) (path : Path) : Prop where
  linkFree : workspace.files.IsLinkFree
  names : ∀ name ∈ path.components, name ≠ "." ∧ name ≠ ".."
  starts : workspace.files.entryAt? (workspace.startOf path.isAbsolute) ≠ none

theorem LeadsPlainly.parent {workspace : Workspace} {path : Path}
    (plain : workspace.LeadsPlainly path) : workspace.LeadsPlainly path.parent where
  linkFree := plain.linkFree
  names name member := plain.names name (List.mem_of_mem_dropLast member)
  starts := plain.starts

/-- Where a path has led it is followed further, whatever directories and files are put. -/
theorem LeadsPlainly.further {workspace : Workspace} {path : Path}
    (plain : workspace.LeadsPlainly path) (after : Node)
    (puts : workspace.files.PutsNoLink after) : (workspace.withFiles after).LeadsPlainly path where
  linkFree location target := by
    rcases puts location with same | stands | ⟨content, stands⟩
    · rw [files_with_files, same]
      exact plain.linkFree location target
    · simp [stands]
    · simp [stands]
  names := plain.names
  starts := by
    rcases puts (workspace.startOf path.isAbsolute) with same | stands | ⟨content, stands⟩
    · exact same ▸ plain.starts
    · exact Option.ne_none_iff_exists'.mpr ⟨_, stands⟩
    · exact Option.ne_none_iff_exists'.mpr ⟨_, stands⟩

/-- Where a path leads that the file system can be asked about. -/
theorem arrive_plain (workspace : Workspace) (followLast : Bool) (path : Path)
    (plain : workspace.LeadsPlainly path) (checked : ∃ text, checkedText path = .ok text) :
    ∃ result, PlainEnd workspace.files (workspace.startOf path.isAbsolute) path.components result ∧
      workspace.arrive followLast path = result.mapError (FileFault.refused · path.text) := by
  have ends := walk_plain workspace.files followLast linkLimit
    (workspace.startOf path.isAbsolute) path.components plain.linkFree plain.names plain.starts
  refine ⟨_, ends, ?_⟩
  obtain ⟨text, checked⟩ := checked
  obtain ⟨rfl, -⟩ := (checked_text_iff path text).mp checked
  simp only [arrive, checked, bind, Except.bind, startOf]
  cases walk workspace.files followLast linkLimit
      (if path.isAbsolute then [] else workspace.workingDirectory) path.components with
  | error refusal => rfl
  | ok arrival => rfl

end Workspace

end ReadmePress
