import Mathlib.Tactic.SplitIfs
import ReadmePress.Proofs.FileSystem.Writing
import ReadmePress.Proofs.Outcome

/-!
Adding to files. To open a file for it creates that file at most, and what is added goes to its
end, so nothing else in the tree changes and no file loses a byte. New files do not change where a
path leads to a file that can be added to, or that it leads to none: the place is the same before
and after.
-/

namespace ReadmePress

namespace Node

/-- The bytes of the file at a place; where no file stands there are none. -/
def contentAt (files : Node) (location : Location) : List UInt8 :=
  match files.entryAt? location with
  | some (.file content) => content
  | _ => []

theorem content_at_file (files : Node) (location : Location) (content : List UInt8)
    (found : files.entryAt? location = some (.file content)) :
    files.contentAt location = content := by
  rw [contentAt, found]

/-- A file stands at a place, or nothing does. -/
def IsOpenToFiles (files : Node) (location : Location) : Prop :=
  files.entryAt? location = none ∨ ∃ content, files.entryAt? location = some (.file content)

/-- The second tree is the first one with these bytes at the end of the file at a place. The file
may be new. -/
structure Appended (before after : Node) (location : Location) (addition : List UInt8) : Prop where
  isOpen : before.IsOpenToFiles location
  holds : after.entryAt? location = some (.file (before.contentAt location ++ addition))
  elsewhere : ∀ other, other ≠ location → after.entryAt? other = before.entryAt? other

theorem Appended.refl_of_file (files : Node) (location : Location) (content : List UInt8)
    (found : files.entryAt? location = some (.file content)) :
    files.Appended files location [] := by
  refine ⟨Or.inr ⟨content, found⟩, ?_, fun _ _ => rfl⟩
  rw [content_at_file files location content found, List.append_nil, found]

theorem Appended.trans {before between after : Node} {location : Location}
    {first second : List UInt8} (firstAppended : before.Appended between location first)
    (secondAppended : between.Appended after location second) :
    before.Appended after location (first ++ second) := by
  refine ⟨firstAppended.isOpen, ?_, ?_⟩
  · have held := content_at_file between location _ firstAppended.holds
    rw [secondAppended.holds, held, List.append_assoc]
  · intro other different
    rw [secondAppended.elsewhere other different, firstAppended.elsewhere other different]

theorem appended_of_append_to (files : Node) (location : Location)
    (content addition : List UInt8)
    (found : files.entryAt? location = some (.file content)) :
    files.Appended (files.appendTo location addition) location addition := by
  have held := (entry_at_eq_file_iff files location content).mp found
  have appended : files.appendTo location addition =
      files.put location (.file (content ++ addition)) := by
    rw [appendTo, held]
  obtain ⟨-, changed⟩ := kept_of_put_file files location (content ++ addition)
    (room_of_found files location _ found) (Or.inr ⟨content, found⟩)
  rw [appended]
  refine ⟨Or.inr ⟨content, found⟩, ?_, ?_⟩
  · rw [changed, if_pos rfl, content_at_file files location content found]
  · intro other different
    rw [changed, if_neg different]

/-- The second tree is the first one with new files, and with other contents of files. -/
def AddsFiles (before after : Node) : Prop :=
  ∀ location, after.entryAt? location = before.entryAt? location ∨
    (before.IsOpenToFiles location ∧ ∃ content, after.entryAt? location = some (.file content))

theorem Appended.addsFiles {before after : Node} {location : Location} {addition : List UInt8}
    (appended : before.Appended after location addition) : before.AddsFiles after := by
  intro other
  by_cases same : other = location
  · subst same
    exact Or.inr ⟨appended.isOpen, _, appended.holds⟩
  · exact Or.inl (appended.elsewhere other same)

namespace AddsFiles

variable {before after : Node} (adds : before.AddsFiles after)
include adds

theorem directory_iff (location : Location) :
    after.entryAt? location = some .directory ↔ before.entryAt? location = some .directory := by
  rcases adds location with same | ⟨absent | ⟨previous, held⟩, content, stands⟩
  · rw [same]
  · simp [absent, stands]
  · simp [held, stands]

theorem keeps_files (location : Location) (content : List UInt8)
    (held : before.entryAt? location = some (.file content)) :
    ∃ other, after.entryAt? location = some (.file other) := by
  rcases adds location with same | ⟨-, stands⟩
  · exact ⟨content, same.trans held⟩
  · exact stands

/-- A file stands where something stood before only if a file did. -/
theorem file_before (location : Location) (content : List UInt8)
    (stands : after.entryAt? location = some (.file content))
    (stood : before.entryAt? location ≠ none) :
    ∃ previous, before.entryAt? location = some (.file previous) := by
  rcases adds location with same | ⟨absent | held, -⟩
  · exact ⟨content, same.symm.trans stands⟩
  · exact absurd absent stood
  · exact held

end AddsFiles

theorem stands_above (files : Node) (location : Location)
    (stands : files.entryAt? location ≠ none) : files.entryAt? location.dropLast ≠ none := by
  obtain ⟨entry, found⟩ := Option.ne_none_iff_exists'.mp stands
  rcases room_of_found files location entry found with atRoot | above
  · rw [atRoot] at stands ⊢
    exact stands
  · simp [above]

end Node

namespace Workspace

/-! Where a walk ends, something stands -/

theorem hop_onward_stands (files : Node) (followLast : Bool) (here place : Location)
    (name : String) (rest : List String)
    (onward : hop files followLast here name rest = .onward place) :
    files.entryAt? place ≠ none := by
  unfold hop at onward
  split_ifs at onward with isDirectory isDot isDots tooLong
  · obtain rfl := Hop.onward.inj onward
    simp [isDirectory]
  · obtain rfl := Hop.onward.inj onward
    exact files.stands_above here (by simp [isDirectory])
  · cases found : files.entryAt? (here ++ [name]) with
    | none => simp [found, hopOnto] at onward
    | some entry =>
        cases entry with
        | link target => simp [found, hopOnto] at onward
        | file content =>
            obtain rfl : here ++ [name] = place := by simpa [found, hopOnto] using onward
            simp [found]
        | directory =>
            obtain rfl : here ++ [name] = place := by simpa [found, hopOnto] using onward
            simp [found]

/-- A hop that ends at a place ends at a link, and one that ends before a link is in a directory. -/
theorem hop_halted_stands (files : Node) (followLast : Bool) (here : Location) (name : String)
    (rest : List String) (result : Stretch)
    (halted : hop files followLast here name rest = .halted result) :
    (∀ location, result = .arrived (.existing location) → files.entryAt? location ≠ none) ∧
      ∀ directory target left, result = .linked directory target left →
        files.entryAt? directory ≠ none := by
  unfold hop at halted
  split_ifs at halted with isDirectory isDot isDots tooLong
  · obtain rfl := Hop.halted.inj halted
    exact ⟨by simp, by simp⟩
  · cases found : files.entryAt? (here ++ [name]) with
    | none =>
        obtain rfl := Hop.halted.inj (by simpa only [found, hopOnto] using halted)
        cases rest <;> exact ⟨by simp, by simp⟩
    | some entry =>
        cases entry with
        | file content => simp [found, hopOnto] at halted
        | directory => simp [found, hopOnto] at halted
        | link target =>
            obtain rfl := Hop.halted.inj (by simpa only [found, hopOnto] using halted)
            split_ifs with followed
            · refine ⟨by simp, ?_⟩
              rintro directory other left same
              obtain ⟨rfl, -, -⟩ := Stretch.linked.inj same
              simp [isDirectory]
            · refine ⟨?_, by simp⟩
              rintro location same
              obtain rfl := Arrival.existing.inj (Stretch.arrived.inj same)
              simp [found]
  · obtain rfl := Hop.halted.inj halted
    exact ⟨by simp, by simp⟩

theorem stretch_stands (files : Node) (followLast : Bool) (here : Location)
    (names : List String) (stands : files.entryAt? here ≠ none) :
    (∀ location, stretch files followLast here names = .arrived (.existing location) →
      files.entryAt? location ≠ none) ∧
      ∀ directory target left, stretch files followLast here names = .linked directory target left →
        files.entryAt? directory ≠ none := by
  induction names generalizing here with
  | nil =>
      rw [stretch_at_end]
      refine ⟨?_, nofun⟩
      intro location same
      obtain rfl := Arrival.existing.inj (Stretch.arrived.inj same)
      exact stands
  | cons name rest induction =>
      rw [stretch_step]
      cases step : hop files followLast here name rest with
      | onward place => exact induction place (hop_onward_stands _ _ _ _ _ _ step)
      | halted result => exact hop_halted_stands _ _ _ _ _ _ step

theorem walk_stands (files : Node) (followLast : Bool) (links : Nat) (here location : Location)
    (names : List String) (stands : files.entryAt? here ≠ none)
    (arrived : walk files followLast links here names = .ok (.existing location)) :
    files.entryAt? location ≠ none := by
  fun_induction walk files followLast links here names with
  | case1 links here names arrival reached =>
      obtain rfl : arrival = _ := by simpa using arrived
      exact (stretch_stands files followLast here names stands).1 location reached
  | case2 links here names refusal refused => simp at arrived
  | case3 here names link target rest linked => simp at arrived
  | case4 here names link target rest linked left induction =>
      have above := (stretch_stands files followLast here names stands).2 link target rest linked
      refine induction ?_ arrived
      split
      · simp
      · exact above

theorem arrive_stands (workspace : Workspace) (path : Path) (fromRoot : path.isAbsolute = true)
    (location : Location) (arrived : workspace.arrive true path = .ok (.existing location)) :
    workspace.files.entryAt? location ≠ none := by
  rw [arrive_ok_iff, if_pos fromRoot] at arrived
  exact walk_stands workspace.files true linkLimit [] location path.components (by simp) arrived.2

/-! Where paths lead once files have been added -/

/-- No name leads on from a file. -/
theorem stretch_from_file (files : Node) (followLast : Bool) (here : Location)
    (content : List UInt8) (isFile : files.entryAt? here = some (.file content)) (name : String)
    (rest : List String) :
    stretch files followLast here (name :: rest) = .refused .notDirectory := by
  have noDirectory : files.entryAt? here ≠ some .directory := by simp [isFile]
  rw [stretch_step, hop, if_neg noDirectory]

section AddedFiles

variable {before after : Node} (adds : before.AddsFiles after)
include adds

/-- A name leads to the same, or nothing stood under it and now a file does. -/
theorem hop_added (followLast : Bool) (here : Location) (name : String) (rest : List String) :
    hop after followLast here name rest = hop before followLast here name rest ∨
      (∃ content, after.entryAt? (here ++ [name]) = some (.file content)) ∧
        hop before followLast here name rest = hopOnto followLast here name rest none ∧
        hop after followLast here name rest = .onward (here ++ [name]) := by
  simp only [hop, adds.directory_iff here]
  split_ifs with isDirectory isDot isDots tooLong
  · exact Or.inl rfl
  · exact Or.inl rfl
  · exact Or.inl rfl
  · rcases adds (here ++ [name]) with same | ⟨absent | ⟨previous, held⟩, content, stands⟩
    · exact Or.inl (by rw [same])
    · exact Or.inr ⟨⟨content, stands⟩, by rw [absent], by rw [stands]; rfl⟩
    · exact Or.inl (by rw [held, stands]; rfl)
  · exact Or.inl rfl

/-- Where a stretch led to a missing name it may lead to a file now; what was refused still is,
if for another reason. -/
theorem stretch_added (followLast : Bool) (here : Location) (names : List String) :
    stretch after followLast here names = stretch before followLast here names ∨
      (∃ directory missing content,
        stretch before followLast here names = .arrived (.missing directory missing) ∧
        stretch after followLast here names = .arrived (.existing (directory ++ [missing])) ∧
        after.entryAt? (directory ++ [missing]) = some (.file content)) ∨
      ∃ refusal later, stretch before followLast here names = .refused refusal ∧
        stretch after followLast here names = .refused later := by
  induction names generalizing here with
  | nil => exact Or.inl rfl
  | cons name rest induction =>
      rw [stretch_step before, stretch_step after]
      rcases hop_added adds followLast here name rest with
        same | ⟨⟨content, stands⟩, missed, onward⟩
      · rw [same]
        cases hop before followLast here name rest with
        | onward place => exact induction place
        | halted result => exact Or.inl rfl
      · rw [missed, onward]
        cases rest with
        | nil => exact Or.inr (Or.inl ⟨here, name, content, rfl, rfl, stands⟩)
        | cons next more =>
            exact Or.inr (Or.inr
              ⟨.notFound, .notDirectory, rfl, stretch_from_file _ _ _ content stands next more⟩)

theorem walk_added (followLast : Bool) (links : Nat) (here : Location) (names : List String) :
    walk after followLast links here names = walk before followLast links here names ∨
      (∃ directory missing content,
        walk before followLast links here names = .ok (.missing directory missing) ∧
        walk after followLast links here names = .ok (.existing (directory ++ [missing])) ∧
        after.entryAt? (directory ++ [missing]) = some (.file content)) ∨
      ∃ refusal later, walk before followLast links here names = .error refusal ∧
        walk after followLast links here names = .error later := by
  fun_induction walk before followLast links here names with
  | case1 links here names arrival reached =>
      rcases stretch_added adds followLast here names with
        same | ⟨directory, missing, content, missed, arrived, stands⟩ | ⟨_, _, refused, _⟩
      · exact Or.inl (by rw [walk, same, reached])
      · obtain rfl := Stretch.arrived.inj (reached.symm.trans missed)
        exact Or.inr (Or.inl ⟨directory, missing, content, rfl, by rw [walk, arrived], stands⟩)
      · simp [reached] at refused
  | case2 links here names refusal refused =>
      rcases stretch_added adds followLast here names with
        same | ⟨_, _, _, missed, _⟩ | ⟨_, later, _, refusedLater⟩
      · exact Or.inl (by rw [walk, same, refused])
      · simp [refused] at missed
      · exact Or.inr (Or.inr ⟨refusal, later, rfl, by rw [walk, refusedLater]⟩)
  | case3 here names link target rest linked =>
      rcases stretch_added adds followLast here names with
        same | ⟨_, _, _, missed, _⟩ | ⟨_, _, refused, _⟩
      · exact Or.inl (by rw [walk, same, linked])
      · simp [linked] at missed
      · simp [linked] at refused
  | case4 here names link target rest linked left induction =>
      rcases stretch_added adds followLast here names with
        same | ⟨_, _, _, missed, _⟩ | ⟨_, _, refused, _⟩
      · rw [walk, same, linked]
        exact induction
      · simp [linked] at missed
      · simp [linked] at refused

end AddedFiles

theorem arrive_added (workspace : Workspace) (after : Node)
    (adds : workspace.files.AddsFiles after) (followLast : Bool) (path : Path) :
    (workspace.withFiles after).arrive followLast path = workspace.arrive followLast path ∨
      (∃ directory missing content,
        workspace.arrive followLast path = .ok (.missing directory missing) ∧
        (workspace.withFiles after).arrive followLast path =
          .ok (.existing (directory ++ [missing])) ∧
        after.entryAt? (directory ++ [missing]) = some (.file content)) ∨
      ∃ fault later, workspace.arrive followLast path = .error fault ∧
        (workspace.withFiles after).arrive followLast path = .error later := by
  simp only [arrive, withFiles]
  cases checkedText path with
  | error fault => exact Or.inl rfl
  | ok text =>
      simp only [bind, Except.bind]
      rcases walk_added adds followLast linkLimit
          (if path.isAbsolute then [] else workspace.workingDirectory) path.components with
        same | ⟨directory, missing, content, missed, arrived, stands⟩ |
          ⟨refusal, later, refused, refusedLater⟩
      · exact Or.inl (by rw [same])
      · rw [missed, arrived]
        exact Or.inr (Or.inl ⟨directory, missing, content, rfl, rfl, stands⟩)
      · rw [refused, refusedLater]
        exact Or.inr (Or.inr ⟨_, _, rfl, rfl⟩)

/-! Opening files -/

/-- A path is opened for adding at the place of the file that it leads to, or of the name that is
missing. -/
theorem opened_at_iff (workspace : Workspace) (path : Path) (location : Location) :
    (workspace.openForAppending path).outcome = .ok location ↔
      (∃ directory missing, workspace.arrive true path = .ok (.missing directory missing) ∧
        location = directory ++ [missing]) ∨
      (workspace.arrive true path = .ok (.existing location) ∧
        ∃ content, workspace.files.entryAt? location = some (.file content)) := by
  unfold openForAppending
  cases workspace.arrive true path with
  | error fault => simp
  | ok arrival =>
      cases arrival with
      | missing directory missing =>
          constructor
          · intro opened
            exact Or.inl ⟨directory, missing, rfl, (Except.ok.inj opened).symm⟩
          · rintro (⟨_, _, same, rfl⟩ | ⟨impossible, -⟩)
            · obtain ⟨rfl, rfl⟩ := Arrival.missing.inj (Except.ok.inj same)
              rfl
            · exact absurd impossible nofun
      | existing place =>
          constructor
          · intro opened
            simp only at opened
            split at opened
            next content found =>
              obtain rfl := Except.ok.inj opened
              exact Or.inr ⟨rfl, content, (Node.entry_at_eq_file_iff _ _ _).mpr found⟩
            next => exact absurd opened nofun
          · rintro (⟨_, _, impossible, _⟩ | ⟨same, content, held⟩)
            · exact absurd impossible nofun
            · obtain rfl := Arrival.existing.inj (Except.ok.inj same)
              simp [(Node.entry_at_eq_file_iff _ _ _).mp held]

/-- Opening a file adds nothing to it, and where it fails the tree stays as it is. -/
theorem open_cases (workspace : Workspace) (path : Path) :
    (∃ fault, workspace.openForAppending path =
      { outcome := .error fault, files := workspace.files }) ∨
      ∃ location, (workspace.openForAppending path).outcome = .ok location ∧
        workspace.files.Appended (workspace.openForAppending path).files location [] := by
  unfold openForAppending
  split
  next fault refused => exact Or.inl ⟨fault, rfl⟩
  next directory missing arrived =>
    have refills := refills_of_missing workspace path [] directory missing arrived
    have absent := (arrive_missing workspace true path directory missing arrived).2
    refine Or.inr ⟨_, rfl, Or.inl absent, ?_, ?_⟩
    · rw [refills.changed, if_pos rfl, Node.contentAt, absent]
      rfl
    · intro other different
      rw [refills.changed, if_neg different]
  next location arrived =>
    split
    next content found =>
      have isFile := (Node.entry_at_eq_file_iff _ _ _).mpr found
      exact Or.inr ⟨location, rfl, Node.Appended.refl_of_file _ location content isFile⟩
    next => exact Or.inl ⟨_, rfl⟩

/-- Added files do not change where a path is opened, or whether it can be. -/
theorem opened_same (workspace : Workspace) (after : Node)
    (adds : workspace.files.AddsFiles after) (path : Path) (fromRoot : path.isAbsolute = true) :
    ((workspace.withFiles after).openForAppending path).outcome.toOption =
      (workspace.openForAppending path).outcome.toOption := by
  ext location
  simp only [to_option_some_iff, opened_at_iff, files_with_files]
  rcases arrive_added workspace after adds true path with
    same | ⟨directory, missing, content, missed, arrived, stands⟩ | ⟨_, _, refused, refusedLater⟩
  · rw [same]
    refine or_congr_right (and_congr_right fun arrived => ?_)
    constructor
    · rintro ⟨content, stands⟩
      exact adds.file_before location content stands
        (arrive_stands workspace path fromRoot location arrived)
    · rintro ⟨content, held⟩
      exact adds.keeps_files location content held
  · simp only [missed, arrived]
    constructor
    · rintro (⟨_, _, impossible, _⟩ | ⟨there, -⟩)
      · exact absurd impossible nofun
      · obtain rfl : directory ++ [missing] = location := by simpa using there
        exact Or.inl ⟨directory, missing, rfl, rfl⟩
    · rintro (⟨_, _, there, rfl⟩ | ⟨impossible, -⟩)
      · obtain ⟨rfl, rfl⟩ := Arrival.missing.inj (Except.ok.inj there)
        exact Or.inr ⟨rfl, content, stands⟩
      · exact absurd impossible nofun
  · simp [refused, refusedLater]

theorem absolute_from_root (workspace : Workspace) (path : Path) :
    (workspace.absolute path).isAbsolute = true := by
  have append : Path.ofLocation workspace.workingDirectory ++ path =
      (Path.ofLocation workspace.workingDirectory).append path := rfl
  simp only [absolute, append, Path.append]
  split
  next fromRoot => exact fromRoot
  next => rfl

end Workspace

end ReadmePress
