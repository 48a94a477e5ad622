import ReadmePress.Proofs.FileSystem.Ancestors
import ReadmePress.Proofs.FileSystem.PlainPaths

/-!
Writing in a tree without links. Which directories are made and whether the file is written is told
by the tree before: a directory comes to stand wherever the names of the path reach by directories
that exist or can be made, and the file is written if they reach its directory.
-/

namespace ReadmePress

open ReadmePress.Text

namespace Node

/-- Names that are admitted lead to this place. -/
def Reaches (files : Node) (here : Location) (names : List String) (location : Location) : Prop :=
  ∃ way, way <+: names ∧ location = here ++ way ∧ files.Admits here way

/-- The second tree is the first one with a directory at every place that the names reach. -/
structure Opened (before after : Node) (here : Location) (names : List String) : Prop where
  directory : ∀ location, before.Reaches here names location →
    after.entryAt? location = some .directory
  same : ∀ location, ¬ before.Reaches here names location →
    after.entryAt? location = before.entryAt? location

theorem Reaches.clear {files : Node} {here location : Location} {names : List String}
    (reaches : files.Reaches here names location) : files.IsClear location := by
  obtain ⟨way, -, rfl, admits⟩ := reaches
  exact admits.clear way (List.prefix_refl _)

/-- What names admit is told by which places on the way are clear. -/
theorem admits_congr (before after : Node) (here : Location) (names : List String)
    (same : ∀ way, way <+: names → (after.IsClear (here ++ way) ↔ before.IsClear (here ++ way))) :
    after.Admits here names ↔ before.Admits here names := by
  constructor
  · exact fun admits => ⟨admits.short, fun way starts => (same way starts).mp
      (admits.clear way starts)⟩
  · exact fun admits => ⟨admits.short, fun way starts => (same way starts).mpr
      (admits.clear way starts)⟩

theorem opened_of_settled (files : Node) (here : Location) (names : List String)
    (settled : files.IsSettled here names) : files.Opened files here names where
  directory location reaches := by
    obtain ⟨way, starts, rfl, admits⟩ := reaches
    exact files.directory_of_clear _ (admits.clear way (List.prefix_refl _))
      (settled way starts admits)
  same _ _ := rfl

theorem reaches_last (files : Node) (here : Location) (front : List String) (last : String)
    (location : Location) :
    files.Reaches here (front ++ [last]) location ↔
      files.Reaches here front location ∨
        location = here ++ (front ++ [last]) ∧ files.Admits here (front ++ [last]) := by
  constructor
  · rintro ⟨way, starts, isWay, admits⟩
    rcases List.prefix_concat_iff.mp starts with rfl | inFront
    · exact Or.inr ⟨isWay, admits⟩
    · exact Or.inl ⟨way, inFront, isWay, admits⟩
  · rintro (⟨way, starts, isWay, admits⟩ | ⟨isWay, admits⟩)
    · exact ⟨way, starts.trans (List.prefix_append _ _), isWay, admits⟩
    · exact ⟨_, List.prefix_refl _, isWay, admits⟩

namespace Opened

variable {before between after : Node} {here : Location} {names : List String}

theorem clear_iff (opened : before.Opened after here names) (location : Location) :
    after.IsClear location ↔ before.IsClear location := by
  by_cases reaches : before.Reaches here names location
  · exact iff_of_true (Or.inr (opened.directory location reaches)) reaches.clear
  · rw [IsClear, opened.same location reaches, IsClear]

theorem admits_iff (opened : before.Opened after here names) (start : Location)
    (others : List String) : after.Admits start others ↔ before.Admits start others :=
  admits_congr before after start others fun _ _ => opened.clear_iff _

theorem reaches_iff (opened : before.Opened after here names) (start : Location)
    (others : List String) (location : Location) :
    after.Reaches start others location ↔ before.Reaches start others location := by
  simp only [Reaches, opened.admits_iff]

theorem putsNoLink (opened : before.Opened after here names) : before.PutsNoLink after := by
  intro location
  by_cases reaches : before.Reaches here names location
  · exact Or.inr (Or.inl (opened.directory location reaches))
  · exact Or.inl (opened.same location reaches)

/-- Opening a way first to some place on it and then to its end opens it to its end. -/
theorem further (first : before.Opened between here names) (last : String)
    (second : between.Opened after here (names ++ [last])) :
    before.Opened after here (names ++ [last]) where
  directory location reaches := second.directory location ((first.reaches_iff _ _ _).mpr reaches)
  same location unreached := by
    rw [second.same location (mt (first.reaches_iff _ _ _).mp unreached)]
    apply first.same location
    exact fun reaches => unreached ((reaches_last _ _ _ _ _).mpr (.inl reaches))

/-- A way that cannot be opened further is opened as far as it can be. -/
theorem no_further (first : before.Opened after here names) (last : String)
    (refuses : ¬ before.Admits here (names ++ [last])) :
    before.Opened after here (names ++ [last]) where
  directory location reaches := by
    rcases (reaches_last _ _ _ _ _).mp reaches with inFront | ⟨-, admits⟩
    · exact first.directory location inFront
    · exact absurd admits refuses
  same location unreached :=
    first.same location (fun reaches => unreached ((reaches_last _ _ _ _ _).mpr (.inl reaches)))

end Opened

/-- A new directory opens the way to it. -/
theorem opened_of_put (files : Node) (here : Location) (front : List String) (name : String)
    (above : files.entryAt? (here ++ front) = some .directory)
    (nothing : files.entryAt? (here ++ (front ++ [name])) = none)
    (admits : files.Admits here (front ++ [name])) :
    files.Opened (files.put (here ++ front ++ [name]) (.directory [])) here (front ++ [name]) := by
  rw [← List.append_assoc] at nothing
  have room : files.HasRoom (here ++ front ++ [name]) := by
    apply Or.inr
    rwa [List.dropLast_concat]
  have changed := fun other =>
    files.entry_at_put (.directory []) (here ++ front ++ [name]) other room
      (files.bare_of_absent _ nothing) empty_directory_is_bare
  refine ⟨?_, ?_⟩
  · intro location reaches
    rw [changed]
    split
    next => rfl
    next different =>
      rcases (reaches_last _ _ _ _ _).mp reaches with inFront | ⟨isPlace, -⟩
      · have settled := files.settled_of_found here front (by simp [above])
        exact (files.opened_of_settled here front settled).directory location inFront
      · exact absurd (isPlace.trans (List.append_assoc _ _ _).symm) different
  · intro location unreached
    rw [changed, if_neg]
    rintro rfl
    apply unreached
    exact ⟨_, List.prefix_refl _, List.append_assoc _ _ _, admits⟩

end Node

namespace Workspace

variable (workspace : Workspace) (path : Path)

theorem accept_directory_iff (refusal : Refusal) (text : String) :
    workspace.acceptDirectory path (.refused refusal text) = .ok () ↔
      workspace.isDirectory path = .ok true := by
  refine ⟨accept_directory_ok workspace path _, fun isDirectory => ?_⟩
  simp [acceptDirectory, isDirectory, bind, Except.bind]

/-- A directory has been created, with the way to it, as far as the tree admits. -/
structure MakesWay (path : Path) (change : Change Unit) : Prop where
  succeeds : change.outcome = .ok () ↔
    workspace.files.Admits (workspace.startOf path.isAbsolute) path.components
  opened : workspace.files.Opened change.files (workspace.startOf path.isAbsolute) path.components

/-- A creation that is refused for something that exists fails unless that is a directory. -/
theorem ensure_directory_refused (refusal : Refusal) (text : String)
    (refused : workspace.makeDirectory path =
      { outcome := .error (.refused refusal text), files := workspace.files })
    (present : refusal ≠ .notFound) :
    workspace.ensureDirectory path =
      { outcome := workspace.acceptDirectory path (.refused refusal text)
        files := workspace.files } := by
  cases refusal with
  | notFound => exact absurd rfl present
  | _ => simp only [ensureDirectory, refused]

/-- Where all directories on the way exist that can, a refused creation leaves them as they are. -/
theorem makes_way_of_settled (refusal : Refusal) (text : String)
    (refused : workspace.makeDirectory path =
      { outcome := .error (.refused refusal text), files := workspace.files })
    (present : refusal ≠ .notFound)
    (settled : workspace.files.IsSettled (workspace.startOf path.isAbsolute) path.components)
    (isDirectory : workspace.isDirectory path = .ok true ↔
      workspace.files.Admits (workspace.startOf path.isAbsolute) path.components) :
    workspace.MakesWay path (workspace.ensureDirectory path) := by
  rw [workspace.ensure_directory_refused path refusal text refused present]
  refine ⟨?_, workspace.files.opened_of_settled _ _ settled⟩
  rw [accept_directory_iff, isDirectory]

section Plain

variable (plain : workspace.LeadsPlainly path) (checked : ∃ text, checkedText path = .ok text)
include plain checked

theorem is_directory_plain :
    workspace.isDirectory path = .ok true ↔
      workspace.files.Admits (workspace.startOf path.isAbsolute) path.components ∧
        workspace.files.entryAt? (workspace.startOf path.isAbsolute ++ path.components) ≠ none := by
  obtain ⟨result, ends, arrives⟩ := arrive_plain workspace true path plain checked
  rw [is_directory_eq, arrives]
  cases ends with
  | existing short found =>
      simp only [Except.mapError, Except.ok.injEq, decide_eq_true_eq]
      constructor
      · exact fun isDirectory =>
          ⟨workspace.files.admits_of_directory _ _ short isDirectory, found⟩
      · rintro ⟨admits, -⟩
        exact workspace.files.directory_of_clear _ (admits.clear _ (List.prefix_refl _)) found
  | missing front name isLast short above nothing => simp [Except.mapError, nothing]
  | absent nothing =>
      obtain ⟨rest, isRest⟩ := List.dropLast_prefix path.components
      have nothingThere := workspace.files.nothing_below _ rest nothing
      rw [List.append_assoc, isRest] at nothingThere
      simp [Except.mapError, Refusal.meansAbsent, nothingThere]
  | closed refusal present named refuses settled =>
      refine iff_of_false ?_ fun admitted => refuses
        (admitted.1.before _ (List.dropLast_prefix _)) admitted.1.short
      simp only [Except.mapError]
      split <;> simp

/-- Creating a directory whose own directory is not missing. -/
theorem ensure_directory_plain
    (present : ∀ text, (workspace.makeDirectory path).outcome ≠ .error (.refused .notFound text)) :
    workspace.MakesWay path (workspace.ensureDirectory path) := by
  have isDirectory := workspace.is_directory_plain path plain checked
  obtain ⟨result, ends, arrives⟩ := arrive_plain workspace false path plain checked
  cases ends with
  | existing short found =>
      apply workspace.makes_way_of_settled path .alreadyExists path.text
      · rw [makeDirectory, arrives]
        rfl
      · simp
      · exact workspace.files.settled_of_found _ _ found
      · exact isDirectory.trans (and_iff_left found)
  | missing front name isLast short above nothing =>
      have made : workspace.ensureDirectory path =
          { outcome := .ok ()
            files := workspace.files.put (workspace.startOf path.isAbsolute ++ front ++ [name])
              (.directory []) } := by
        simp only [ensureDirectory, makeDirectory, arrives]
        rfl
      have shortFront : ∀ other ∈ front, other.utf8ByteSize ≤ nameLimit := fun other member =>
        short other (by simp [isLast, member])
      rw [isLast] at nothing
      have admits : workspace.files.Admits (workspace.startOf path.isAbsolute) (front ++ [name]) :=
        (Node.admits_last _ _ _ _).mpr
          ⟨workspace.files.admits_of_directory _ _ shortFront above, short name (by simp [isLast]),
            Or.inl nothing⟩
      rw [made]
      refine ⟨?_, ?_⟩
      · rw [isLast]
        exact iff_of_true rfl admits
      · rw [isLast]
        exact workspace.files.opened_of_put _ _ _ above nothing admits
  | absent nothing =>
      refine absurd ?_ (present path.text)
      rw [makeDirectory, arrives]
      rfl
  | closed refusal isPresent named refuses settled =>
      apply workspace.makes_way_of_settled path refusal path.text
      · rw [makeDirectory, arrives]
        rfl
      · exact isPresent
      · exact settled
      · exact isDirectory.trans (and_iff_left_of_imp fun admits =>
          absurd admits.short (refuses (admits.before _ (List.dropLast_prefix _))))

/-- Only where the directory of a path is missing its creation is refused as not found. -/
theorem present_of_directory
    (found : workspace.files.entryAt?
      (workspace.startOf path.isAbsolute ++ path.components.dropLast) ≠ none) (text : String) :
    (workspace.makeDirectory path).outcome ≠ .error (.refused .notFound text) := by
  obtain ⟨result, ends, arrives⟩ := arrive_plain workspace false path plain checked
  rw [makeDirectory, arrives]
  cases ends with
  | existing short found => simp [Except.mapError]
  | missing front name isLast short above nothing => simp [Except.mapError]
  | absent nothing => exact absurd nothing found
  | closed refusal isPresent named refuses settled => simp [Except.mapError, isPresent]

end Plain

theorem make_parents_present (ancestors : Nat)
    (present : ∀ text, (workspace.makeDirectory path).outcome ≠ .error (.refused .notFound text)) :
    workspace.makeParents ancestors path = workspace.ensureDirectory path := by
  cases ancestors with
  | zero => rfl
  | succ ancestors =>
      simp only [makeParents, ensureDirectory]
      split
      next done => rfl
      next text absent => exact absurd absent (present text)
      next fault _ refused => rfl

theorem checked_of_parent (checked : ∃ text, checkedText path = .ok text) :
    ∃ text, checkedText path.parent = .ok text := by
  obtain ⟨root, components⟩ := path
  rcases List.eq_nil_or_concat components with rfl | ⟨front, last, rfl⟩
  · exact checked
  · apply checked_of_child (Path.parent ⟨root, front.concat last⟩) last
    simpa [Path.parent, Path.child] using checked

/-- Where the directory of a path is missing it is created first. -/
theorem make_parents_absent (ancestors : Nat) (text : String) (named : path.components ≠ [])
    (absent : (workspace.makeDirectory path).outcome = .error (.refused .notFound text)) :
    workspace.makeParents (ancestors + 1) path =
      let above := workspace.makeParents ancestors path.parent
      match above.outcome with
      | .error fault => { outcome := .error fault, files := above.files }
      | .ok () => (workspace.withFiles above.files).ensureDirectory path := by
  simp only [makeParents, absent, List.isEmpty_iff, if_neg named]
  rfl

/-- Creating a directory with all that lead to it opens the way as far as the tree admits. -/
theorem make_parents_plain (ancestors : Nat) (counts : path.components.length = ancestors)
    (plain : workspace.LeadsPlainly path) (checked : ∃ text, checkedText path = .ok text) :
    workspace.MakesWay path (workspace.makeParents ancestors path) := by
  induction ancestors generalizing path with
  | zero =>
      apply workspace.ensure_directory_plain path plain checked
      apply workspace.present_of_directory path plain checked
      simpa [List.eq_nil_of_length_eq_zero counts] using plain.starts
  | succ ancestors induction =>
      by_cases present : ∀ text,
          (workspace.makeDirectory path).outcome ≠ .error (.refused .notFound text)
      · rw [workspace.make_parents_present path _ present]
        exact workspace.ensure_directory_plain path plain checked present
      · obtain ⟨text, absent⟩ : ∃ text,
            (workspace.makeDirectory path).outcome = .error (.refused .notFound text) := by
          simpa using present
        have named : path.components ≠ [] := by
          rintro noNames
          simp [noNames] at counts
        have isLast := List.dropLast_append_getLast named
        obtain ⟨admitted, openedAbove⟩ := induction path.parent (by simp [Path.parent, counts])
          plain.parent (checked_of_parent path checked)
        rw [workspace.make_parents_absent path ancestors text named absent]
        simp only
        split
        next fault refused =>
          have notAbove := mt admitted.mpr (by simp [refused])
          have notAdmitted : ¬ workspace.files.Admits (workspace.startOf path.isAbsolute)
              path.components := fun admits => notAbove (admits.before _ (List.dropLast_prefix _))
          have opened := openedAbove.no_further (path.components.getLast named)
            (by rwa [Path.parent, isLast])
          rw [Path.parent, isLast] at opened
          exact ⟨iff_of_false (by simp) notAdmitted, opened⟩
        next made =>
          have above := openedAbove.directory _ ⟨_, List.prefix_refl _, rfl, admitted.mp made⟩
          have plainAfter := plain.further _ openedAbove.putsNoLink
          have present := present_of_directory _ path plainAfter checked
            (Option.ne_none_iff_exists'.mpr ⟨_, above⟩)
          obtain ⟨succeeds, openedLast⟩ :=
            ensure_directory_plain _ path plainAfter checked present
          have opened := openedAbove.further (path.components.getLast named)
            (by rw [Path.parent, isLast]; exact openedLast)
          rw [Path.parent, isLast] at opened
          exact ⟨succeeds.trans (openedAbove.admits_iff _ _), opened⟩

theorem arrive_unchecked (followLast : Bool) (unchecked : ¬ ∃ text, checkedText path = .ok text) :
    ∃ fault, workspace.arrive followLast path = .error fault ∧
      ∀ text, fault ≠ .refused .notFound text := by
  cases checked : checkedText path with
  | ok text => exact absurd ⟨text, checked⟩ unchecked
  | error fault =>
      refine ⟨fault, by simp [arrive, checked, bind, Except.bind], ?_⟩
      simp only [checkedText] at checked
      split_ifs at checked
      · simp [← Except.error.inj checked]
      · simp [← Except.error.inj checked]

/-- Nothing is created at a path that the file system cannot be asked about. -/
theorem make_directories_unchecked (unchecked : ¬ ∃ text, checkedText path = .ok text) :
    (workspace.makeDirectories path).outcome ≠ .ok () ∧
      (workspace.makeDirectories path).files = workspace.files := by
  constructor
  · intro made
    obtain ⟨location, -, leads, -⟩ :=
      directory_of_path _ path (make_directories_ok workspace path made)
    exact unchecked ((arrive_ok_iff _ _ _ _).mp leads).1
  · obtain ⟨fault, arrives, present⟩ := workspace.arrive_unchecked path false unchecked
    have refused : workspace.makeDirectory path =
        { outcome := .error fault, files := workspace.files } := by
      rw [makeDirectory, arrives]
    rw [makeDirectories, make_parents_present, ensure_directory_files, refused]
    intro text absent
    rw [refused] at absent
    exact present text (Except.error.inj absent)

/-- The place that a path without dots leads to in a tree without links. -/
def placeOf : Location := workspace.startOf path.isAbsolute ++ path.components

/-- A file can be written at the path if its directory exists. -/
structure Accepts : Prop where
  checked : ∃ text, checkedText path = .ok text
  named : path.components ≠ []
  short : ∀ name ∈ path.components, name.utf8ByteSize ≤ nameLimit
  free : workspace.files.entryAt? (workspace.placeOf path) = none ∨
    ∃ content, workspace.files.entryAt? (workspace.placeOf path) = some (.file content)

/-- The file is put where the path accepts one, and nothing else is changed. -/
structure PutsFile (content : List UInt8) (change : Change Unit) : Prop where
  succeeds : change.outcome = .ok () ↔ workspace.Accepts path
  file : workspace.Accepts path →
    change.files.entryAt? (workspace.placeOf path) = some (.file content)
  same : ∀ other, (workspace.Accepts path → other ≠ workspace.placeOf path) →
    change.files.entryAt? other = workspace.files.entryAt? other

variable {workspace path} in
theorem puts_file_of_refills {content : List UInt8} {change : Change Unit}
    (accepts : workspace.Accepts path) (done : change.outcome = .ok ())
    (refills : workspace.Refills path content change.files (workspace.placeOf path)) :
    workspace.PutsFile path content change where
  succeeds := iff_of_true done accepts
  file _ := by rw [refills.changed, if_pos rfl]
  same other elsewhere := by rw [refills.changed, if_neg (elsewhere accepts)]

variable {workspace path} in
theorem puts_no_file {content : List UInt8} {fault : FileFault}
    (refuses : ¬ workspace.Accepts path) :
    workspace.PutsFile path content { outcome := .error fault, files := workspace.files } where
  succeeds := iff_of_false (by simp) refuses
  file accepts := absurd accepts refuses
  same _ _ := rfl

/-- Writing to a path that leads to something, which is replaced if it is a file. -/
theorem write_bytes_existing (content : List UInt8) (plain : workspace.LeadsPlainly path)
    (above : workspace.files.entryAt?
      (workspace.startOf path.isAbsolute ++ path.components.dropLast) = some .directory)
    (short : ∀ name ∈ path.components, name.utf8ByteSize ≤ nameLimit)
    (checked : ∃ text, checkedText path = .ok text)
    (arrives : workspace.arrive true path = .ok (.existing (workspace.placeOf path)))
    (found : workspace.files.entryAt? (workspace.placeOf path) ≠ none) :
    workspace.PutsFile path content (workspace.writeBytes path content) := by
  obtain ⟨entry, stands⟩ := Option.ne_none_iff_exists'.mp found
  obtain ⟨node, atPlace, rfl⟩ := Option.map_eq_some_iff.mp stands
  cases node with
  | file previous =>
      have named : path.components ≠ [] := by
        intro noNames
        rw [noNames, List.dropLast_nil] at above
        rw [placeOf, noNames, above] at stands
        simp [Node.entry] at stands
      have written : workspace.writeBytes path content =
          { outcome := .ok ()
            files := workspace.files.put (workspace.placeOf path) (.file content) } := by
        simp only [writeBytes, arrives, atPlace]
      rw [written]
      exact puts_file_of_refills ⟨checked, named, short, Or.inr ⟨previous, stands⟩⟩ rfl
        (refills_of_existing workspace path content previous _ arrives atPlace)
  | link target => exact absurd stands (plain.linkFree _ _)
  | directory entries =>
      have refused : workspace.writeBytes path content =
          { outcome := .error (.refused .isDirectory path.text), files := workspace.files } := by
        simp only [writeBytes, arrives, atPlace]
      rw [refused]
      apply puts_no_file
      rintro ⟨-, -, -, nothing | ⟨previous, isFile⟩⟩
      · exact found nothing
      · rw [stands] at isFile
        simp [Node.entry] at isFile

theorem write_bytes_plain (content : List UInt8) (plain : workspace.LeadsPlainly path)
    (admits : workspace.files.Admits (workspace.startOf path.isAbsolute) path.components.dropLast)
    (above : workspace.files.entryAt?
      (workspace.startOf path.isAbsolute ++ path.components.dropLast) = some .directory) :
    workspace.PutsFile path content (workspace.writeBytes path content) := by
  by_cases checked : ∃ text, checkedText path = .ok text
  · obtain ⟨result, ends, arrives⟩ := arrive_plain workspace true path plain checked
    cases ends with
    | existing short found =>
        exact workspace.write_bytes_existing path content plain above short checked arrives found
    | missing front name isLast short isDirectory nothing =>
        have isPlace : workspace.startOf path.isAbsolute ++ front ++ [name] =
            workspace.placeOf path := by
          rw [placeOf, isLast, List.append_assoc]
        have written : workspace.writeBytes path content =
            { outcome := .ok ()
              files := workspace.files.put (workspace.placeOf path) (.file content) } := by
          simp only [writeBytes, arrives, Except.mapError, isPlace]
        have refills := refills_of_missing workspace path content _ name arrives
        rw [isPlace] at refills
        rw [written]
        exact puts_file_of_refills ⟨checked, by simp [isLast], short, Or.inl nothing⟩ rfl refills
    | absent nothing => simp [above] at nothing
    | closed refusal present named refuses settled =>
        simp only [writeBytes, arrives, Except.mapError]
        exact puts_no_file fun accepts => refuses admits accepts.short
  · obtain ⟨fault, arrives, -⟩ := workspace.arrive_unchecked path true checked
    simp only [writeBytes, arrives]
    exact puts_no_file fun accepts => checked accepts.checked

/-- Writing to the path makes a directory of this place, unless there is one already. -/
def OpensWay (location : Location) : Prop :=
  (∃ text, checkedText path.parent = .ok text) ∧
    workspace.files.Reaches (workspace.startOf path.isAbsolute) path.parent.components location

/-- A file can be written at the path. -/
def CanWrite : Prop :=
  workspace.files.Admits (workspace.startOf path.isAbsolute) path.parent.components ∧
    workspace.Accepts path

/-- The tree after a writing to the path: there are directories on the way to the file, as far as
the tree before admits them, and the file if it can be written. -/
structure Draws (content : List UInt8) (after : Node) : Prop where
  file : workspace.CanWrite path →
    after.entryAt? (workspace.placeOf path) = some (.file content)
  directory : ∀ location, workspace.OpensWay path location →
    after.entryAt? location = some .directory
  same : ∀ location, ¬ workspace.OpensWay path location →
    (workspace.CanWrite path → location ≠ workspace.placeOf path) →
      after.entryAt? location = workspace.files.entryAt? location

theorem opens_above (location : Location) (opens : workspace.OpensWay path location) :
    location <+: workspace.placeOf path := by
  obtain ⟨-, way, starts, rfl, -⟩ := opens
  exact (List.prefix_append_right_inj _).mpr (starts.trans (List.dropLast_prefix _))

/-- The file does not stand on the way to it. -/
theorem place_not_opened (named : path.components ≠ []) :
    ¬ workspace.OpensWay path (workspace.placeOf path) := by
  rintro ⟨-, way, starts, isWay, -⟩
  have shorter := starts.length_le
  rw [← List.append_cancel_left isWay, Path.parent, List.length_dropLast] at shorter
  have positive := List.length_pos_of_ne_nil named
  omega

theorem accepts_congr (after : Node)
    (same : path.components ≠ [] → after.entryAt? (workspace.placeOf path) =
      workspace.files.entryAt? (workspace.placeOf path)) :
    (workspace.withFiles after).Accepts path ↔ workspace.Accepts path := by
  constructor
  · rintro ⟨checked, named, short, free⟩
    exact ⟨checked, named, short, same named ▸ free⟩
  · rintro ⟨checked, named, short, free⟩
    exact ⟨checked, named, short, (same named).symm ▸ free⟩

/-- The file is put after the way to it has been opened. -/
theorem draws_of_puts (content : List UInt8) (between : Node) (change : Change Unit)
    (checked : ∃ text, checkedText path.parent = .ok text)
    (admits : workspace.files.Admits (workspace.startOf path.isAbsolute) path.parent.components)
    (opened : workspace.files.Opened between (workspace.startOf path.isAbsolute)
      path.parent.components)
    (puts : (workspace.withFiles between).PutsFile path content change) :
    (change.outcome = .ok () ↔ workspace.CanWrite path) ∧
      workspace.Draws path content change.files := by
  have unreached (location : Location) (unopened : ¬ workspace.OpensWay path location) :
      between.entryAt? location = workspace.files.entryAt? location :=
    opened.same location fun reaches => unopened ⟨checked, reaches⟩
  have accepts : (workspace.withFiles between).Accepts path ↔ workspace.CanWrite path :=
    (workspace.accepts_congr path between fun named =>
      unreached _ (workspace.place_not_opened path named)).trans (and_iff_right admits).symm
  refine ⟨puts.succeeds.trans accepts, fun can => puts.file (accepts.mpr can), ?_, ?_⟩
  · intro location opens
    have notPlace : (workspace.withFiles between).Accepts path →
        location ≠ workspace.placeOf path := by
      rintro accepted rfl
      exact workspace.place_not_opened path accepted.named opens
    exact (puts.same location notPlace).trans (opened.directory location opens.2)
  · intro location unopened notPlace
    exact (puts.same location (notPlace ∘ accepts.mp)).trans (unreached location unopened)

theorem sized_iff (outcome : Except FileFault Unit) (size : Nat) :
    (∃ reported, outcome.map (fun _ => size) = .ok reported) ↔ outcome = .ok () := by
  cases outcome <;> simp [Except.map]

/-- Writing a text, told by the tree before. -/
theorem write_text_plain (content : String) (plain : workspace.LeadsPlainly path) :
    let change := workspace.writeText path content
    ((∃ size, change.outcome = .ok size) ↔ workspace.CanWrite path) ∧
      workspace.Draws path (encodeUtf8 content.toList) change.files := by
  intro change
  by_cases checked : ∃ text, checkedText path.parent = .ok text
  · obtain ⟨admitted, opened⟩ : workspace.MakesWay path.parent
        (workspace.makeDirectories path.parent) :=
      workspace.make_parents_plain path.parent _ rfl plain.parent checked
    simp only [change, writeText]
    split
    next fault refused =>
      have cannot : ¬ workspace.CanWrite path := fun can =>
        absurd (admitted.mpr can.1) (by simp [refused])
      exact ⟨iff_of_false (by simp) cannot, fun can => absurd can cannot,
        fun location opens => opened.directory location opens.2,
        fun location unopened _ => opened.same location fun reaches =>
          unopened ⟨checked, reaches⟩⟩
    next made =>
      have admits := admitted.mp made
      have above := opened.directory _ ⟨_, List.prefix_refl _, rfl, admits⟩
      have puts := write_bytes_plain
        (workspace.withFiles (workspace.makeDirectories path.parent).files) path
        (encodeUtf8 content.toList) (plain.further _ opened.putsNoLink)
        ((opened.admits_iff _ _).mpr admits) above
      obtain ⟨succeeds, draws⟩ := workspace.draws_of_puts path _ _ _ checked admits opened puts
      exact ⟨(sized_iff _ _).trans succeeds, draws⟩
  · obtain ⟨notMade, sameFiles⟩ := workspace.make_directories_unchecked path.parent checked
    have cannot : ¬ workspace.CanWrite path := fun can =>
      checked (checked_of_parent path can.2.checked)
    simp only [change, writeText]
    split
    next fault refused =>
      rw [sameFiles]
      exact ⟨iff_of_false (by simp) cannot, fun can => absurd can cannot,
        fun location opens => absurd opens.1 checked, fun location _ _ => rfl⟩
    next made => exact absurd made notMade

end Workspace

end ReadmePress
