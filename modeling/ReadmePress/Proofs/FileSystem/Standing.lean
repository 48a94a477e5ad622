import ReadmePress.Proofs.FileSystem.Following
import ReadmePress.Proofs.Reading
import ReadmePress.Proofs.Facts.SourceTexts

/-!
Partial paths that lead to a place with no link on the way. Such a path leads there whatever
names come after it, and where they are short enough together the file system can be asked about
it, so whether one more name is a link is told by what stands under that name.
-/

namespace ReadmePress

open ReadmePress.Text

namespace PartialPath

theorem above_dots (path : PartialPath) :
    (path.child "..").above = (path.child "..").child ".." := by
  simp [above, child]

theorem above_child (path : PartialPath) (name : String) (notDots : name ≠ "..") :
    (path.child name).above = path := by
  simp [above, child, notDots]

theorem above_from_root (path : PartialPath) : path.above.fromRoot = path.fromRoot := by
  cases last : path.components.getLast? with
  | none => cases isRoot : path.fromRoot <;> simp [above, last, isRoot]
  | some name => by_cases isDots : name = ".." <;> simp [above, last, isDots]

theorem child_injective (path other : PartialPath) (name otherName : String)
    (same : path.child name = other.child otherName) : path = other ∧ name = otherName := by
  obtain ⟨sameRoot, sameComponents⟩ := PartialPath.mk.inj same
  have names := List.append_inj' sameComponents rfl
  refine ⟨?_, by simpa using names.2⟩
  cases path
  cases other
  simp_all

end PartialPath

namespace Workspace

/-- The surroundings of a real run: a tree that a disk can hold, and a working directory in it
that names lead to. -/
structure IsReal (workspace : Workspace) : Prop where
  onDisk : workspace.files.OnDisk
  working : workspace.files.entryAt? workspace.workingDirectory = some .directory
  workingNames : ∀ name ∈ workspace.workingDirectory, IsEntryName name

theorem IsReal.noNull {workspace : Workspace} (real : workspace.IsReal) (here : Location)
    (name : String) (found : workspace.files.entryAt? (here ++ [name]) ≠ none) :
    '\x00' ∉ name.toList :=
  workspace.files.names_without_null (here ++ [name]) real.onDisk found name (by simp)

/-- The bytes of names with one more for each, so that a text of them has no more. -/
def namesBytes : List String → Nat
  | [] => 0
  | name :: rest => name.utf8ByteSize + 1 + namesBytes rest

@[simp]
theorem names_bytes_nil : namesBytes [] = 0 := by
  rfl

@[simp]
theorem names_bytes_cons (name : String) (names : List String) :
    namesBytes (name :: names) = name.utf8ByteSize + 1 + namesBytes names := by
  rfl

@[simp]
theorem names_bytes_append (front back : List String) :
    namesBytes (front ++ back) = namesBytes front + namesBytes back := by
  induction front with
  | nil => simp
  | cons name front induction =>
      rw [List.cons_append, names_bytes_cons, names_bytes_cons, induction]
      exact (Nat.add_assoc _ _ _).symm

theorem above_bytes (path : PartialPath) :
    namesBytes path.above.components ≤ namesBytes path.components + namesBytes [".."] := by
  rcases path with ⟨fromRoot, components⟩
  rcases List.eq_nil_or_concat components with rfl | ⟨front, last, rfl⟩
  · cases fromRoot <;> simp [PartialPath.above]
  · rw [List.concat_eq_append, PartialPath.above]
    simp only [List.getLast?_concat, List.dropLast_concat]
    split
    · exact Nat.le_of_eq (names_bytes_append (front ++ [last]) [".."])
    · rw [names_bytes_append]
      exact Nat.le_trans (Nat.le_add_right _ _) (Nat.le_add_right _ _)

theorem split_bytes (text : List Char) :
    namesBytes ((split '/' text).map String.ofList) = (String.ofList text).utf8ByteSize + 1 := by
  induction text with
  | nil => rfl
  | cons character rest induction =>
      rw [split, String.ofList_cons, String.utf8ByteSize_append, String.utf8ByteSize_singleton]
      by_cases isSlash : character = '/'
      · have slashBytes : ('/' : Char).utf8Size = 1 := by decide
        have noBytes : (String.ofList []).utf8ByteSize = 0 := by decide
        rw [if_pos isSlash, List.map_cons, names_bytes_cons, induction, isSlash]
        omega
      · rw [if_neg isSlash]
        cases fields : split '/' rest with
        | nil => exact absurd fields (split_ne_nil '/' rest)
        | cons field more =>
            rw [fields] at induction
            simp only [List.map_cons, names_bytes_cons, String.ofList_cons,
              String.utf8ByteSize_append, String.utf8ByteSize_singleton] at induction ⊢
            omega

/-- The names in a target have the bytes of the target. -/
theorem written_names_bytes (target : String) :
    namesBytes (writtenNames target) = target.utf8ByteSize + 1 := by
  rw [writtenNames, split_bytes, String.ofList_toList]

theorem intercalate_bytes (name : String) (rest : List String) :
    (String.intercalate "/" (name :: rest)).utf8ByteSize < namesBytes (name :: rest) := by
  induction rest generalizing name with
  | nil => simp [String.intercalate_singleton]
  | cons next more induction =>
      have separator : ("/" : String).utf8ByteSize = 1 := by decide
      have later := induction next
      rw [String.intercalate_cons_cons, String.utf8ByteSize_append, String.utf8ByteSize_append,
        names_bytes_cons]
      omega

/-- A path whose names are short enough can be asked for. -/
theorem text_fits (path : Path) (single : path.root ≠ .doubled)
    (fits : namesBytes path.components < pathLimit) : path.text.utf8ByteSize < pathLimit := by
  have rootBytes : (Path.rootText path.root).utf8ByteSize ≤ 1 := by
    cases root : path.root with
    | relative => decide
    | absolute => decide
    | doubled => exact absurd root single
  rw [Path.text]
  split
  · decide
  · rw [String.utf8ByteSize_append]
    cases components : path.components with
    | nil =>
        have noBytes : (String.intercalate "/" []).utf8ByteSize = 0 := by decide
        have limit : pathLimit = 4096 := rfl
        omega
    | cons name rest =>
        have bytes := intercalate_bytes name rest
        rw [components] at fits
        omega

theorem checked_of_names (path : Path) (single : path.root ≠ .doubled)
    (fits : namesBytes path.components < pathLimit)
    (noNull : ∀ name ∈ path.components, '\x00' ∉ name.toList) :
    checkedText path = .ok path.text := by
  refine (checked_text_iff path path.text).mpr ⟨rfl, ?_, text_fits path single fits⟩
  intro null
  obtain ⟨name, member, inName⟩ := null_in_path path null
  exact noNull name member inName

/-- The place that a partial path starts from. -/
def startOf (workspace : Workspace) (fromRoot : Bool) : Location :=
  if fromRoot then [] else workspace.workingDirectory

theorem start_of_partial (workspace : Workspace) (path : PartialPath) :
    (if path.toPath.isAbsolute then [] else workspace.workingDirectory) =
      workspace.startOf path.fromRoot := by
  cases isRoot : path.fromRoot <;> simp [PartialPath.toPath, Path.isAbsolute, startOf, isRoot]

theorem partial_is_single (path : PartialPath) : path.toPath.root ≠ .doubled := by
  cases isRoot : path.fromRoot <;> simp [PartialPath.toPath, isRoot]

/-- A partial path leads to a place with no link on the way. -/
inductive Stands (workspace : Workspace) : PartialPath → Location → Prop
  | start (fromRoot : Bool) :
      Stands workspace { fromRoot := fromRoot, components := [] } (workspace.startOf fromRoot)
  | above {path : PartialPath} {here : Location} (stands : Stands workspace path here)
      (isDirectory : workspace.files.entryAt? here = some .directory) :
      Stands workspace (path.child "..") here.dropLast
  | entry {path : PartialPath} {here : Location} {name : String} {entry : Entry}
      (stands : Stands workspace path here) (isName : IsEntryName name)
      (found : workspace.files.entryAt? (here ++ [name]) = some entry)
      (notLink : ∀ target, entry ≠ .link target) :
      Stands workspace (path.child name) (here ++ [name])

namespace Stands

variable {workspace : Workspace} {path : PartialPath} {here : Location}

theorem stretch_on (stands : workspace.Stands path here) (followLast : Bool)
    (more : List String) :
    stretch workspace.files followLast (workspace.startOf path.fromRoot)
        (path.components ++ more) =
      stretch workspace.files followLast here more := by
  induction stands generalizing more with
  | start fromRoot => rfl
  | @above path here _ isDirectory induction =>
      have split : (path.child "..").components ++ more = path.components ++ ".." :: more := by
        simp [PartialPath.child]
      have hops : hop workspace.files followLast here ".." more = .onward here.dropLast := by
        simp [hop, isDirectory]
      rw [split]
      refine (induction (".." :: more)).trans ?_
      rw [stretch_step, hops]
  | @entry path here name entry _ isName found notLink induction =>
      have split : (path.child name).components ++ more = path.components ++ name :: more := by
        simp [PartialPath.child]
      have isDirectory := workspace.files.directory_above here name entry found
      have hops : hop workspace.files followLast here name more = .onward (here ++ [name]) := by
        rw [hop, if_pos isDirectory, if_neg isName.notDot, if_neg isName.notDots,
          if_neg (Nat.not_lt.mpr isName.short), found]
        cases entry with
        | file content => rfl
        | directory => rfl
        | link target => exact absurd rfl (notLink target)
      rw [split]
      refine (induction (name :: more)).trans ?_
      rw [stretch_step, hops]

/-- A link is followed from the root or from where its own path stands. -/
theorem atLinkStart (stands : workspace.Stands path here) (target : String) :
    ∃ start, (if target.toList.head? = some '/' then { fromRoot := true, components := [] }
        else path) = start ∧
      workspace.Stands start (linkStart target here) ∧
      (path.fromRoot = true → start.fromRoot = true) ∧
      namesBytes start.components ≤ namesBytes path.components := by
  refine ⟨_, rfl, ?_⟩
  rw [linkStart]
  split
  · exact ⟨.start true, fun _ => rfl, Nat.zero_le _⟩
  · exact ⟨stands, id, Nat.le_refl _⟩

theorem unique {other : Location} (stands : workspace.Stands path here)
    (same : workspace.Stands path other) : other = here := by
  have reached := (same.stretch_on true []).symm.trans (stands.stretch_on true [])
  simpa [stretch_at_end] using reached

/-- The path above stands at the place above. -/
theorem pathAbove (stands : workspace.Stands path here)
    (isDirectory : workspace.files.entryAt? here = some .directory) :
    workspace.Stands path.above here.dropLast := by
  cases stands with
  | start fromRoot =>
      cases fromRoot with
      | true => exact .start true
      | false => exact (Stands.start false).above isDirectory
  | above stands onDirectory =>
      rw [PartialPath.above_dots]
      exact (stands.above onDirectory).above isDirectory
  | entry stands isName found notLink =>
      rw [PartialPath.above_child _ _ isName.notDots, List.dropLast_concat]
      exact stands

/-- A place that something other than a link stands at is stood at from the root. -/
theorem of_location (workspace : Workspace) (location : Location)
    (names : ∀ name ∈ location, IsEntryName name)
    (entry : Entry) (found : workspace.files.entryAt? location = some entry)
    (notLink : ∀ target, entry ≠ .link target) :
    workspace.Stands { fromRoot := true, components := location } location := by
  induction location using List.reverseRecOn generalizing entry with
  | nil => exact .start true
  | append_singleton front name induction =>
      have isDirectory := workspace.files.directory_above front name entry found
      have stands := induction (fun other member => names other (List.mem_append_left _ member))
        .directory isDirectory nofun
      exact stands.entry (names name (by simp)) found notLink

theorem settle_concat (front : List String) (name : String) :
    settle (front ++ [name]) =
      if name = "" || name = "." then settle front
      else if name = ".." then (settle front).dropLast
      else settle front ++ [name] := by
  simp only [settle, List.foldl_append, List.foldl_cons, List.foldl_nil]

theorem settle_name (front : List String) (name : String) (isName : IsEntryName name) :
    settle (front ++ [name]) = settle front ++ [name] := by
  simp [settle_concat, isName.notEmpty, isName.notDot, isName.notDots]

theorem settle_plain (names : List String) (plain : ∀ name ∈ names, IsEntryName name) :
    settle names = names := by
  induction names using List.reverseRecOn with
  | nil => rfl
  | append_singleton front name induction =>
      have settled := induction fun other member => plain other (List.mem_append_left _ member)
      rw [settle_name front name (plain name (by simp)), settled]

section Real

variable (real : workspace.IsReal)

include real

theorem directory_at_start (fromRoot : Bool) :
    workspace.files.entryAt? (workspace.startOf fromRoot) = some .directory := by
  cases fromRoot with
  | false => exact real.working
  | true =>
      have rootFound := real.working
      cases working : workspace.workingDirectory with
      | nil =>
          rw [working] at rootFound
          exact rootFound
      | cons name rest =>
          rw [working] at rootFound
          cases files : workspace.files with
          | file content => simp [files, Node.entryAt?, Node.node?] at rootFound
          | link target => simp [files, Node.entryAt?, Node.node?] at rootFound
          | directory entries => simp [startOf, Node.entry]

/-- Where a path stands there is something that is no link, and its place can be written. -/
theorem placed (stands : workspace.Stands path here) :
    (∃ entry, workspace.files.entryAt? here = some entry ∧ ∀ target, entry ≠ .link target) ∧
      ∀ name ∈ here, IsEntryName name := by
  induction stands with
  | start fromRoot =>
      refine ⟨⟨.directory, directory_at_start real fromRoot, nofun⟩, ?_⟩
      cases fromRoot with
      | false => exact real.workingNames
      | true => exact nofun
  | @above path here _ isDirectory induction =>
      refine ⟨?_, fun name member => induction.2 name (List.mem_of_mem_dropLast member)⟩
      rcases List.eq_nil_or_concat here with rfl | ⟨front, name, rfl⟩
      · exact ⟨.directory, isDirectory, nofun⟩
      · rw [List.concat_eq_append] at isDirectory ⊢
        rw [List.dropLast_concat]
        exact ⟨.directory, workspace.files.directory_above front name _ isDirectory, nofun⟩
  | entry _ isName found notLink induction =>
      refine ⟨⟨_, found, notLink⟩, ?_⟩
      intro other member
      rcases List.mem_append.mp member with isAbove | isLast
      · exact induction.2 other isAbove
      · rw [List.mem_singleton.mp isLast]
        exact isName

theorem noNull (stands : workspace.Stands path here) :
    ∀ name ∈ path.components, '\x00' ∉ name.toList := by
  induction stands with
  | start fromRoot => exact nofun
  | above _ _ induction =>
      intro other member
      rcases List.mem_append.mp member with isAbove | isLast
      · exact induction other isAbove
      · rw [List.mem_singleton.mp isLast]
        decide
  | @entry path here name entry _ isName found notLink induction =>
      intro other member
      rcases List.mem_append.mp member with isAbove | isLast
      · exact induction other isAbove
      · rw [List.mem_singleton.mp isLast]
        exact real.noNull here name (by simp [found])

/-- Carrying out the double dots of a path by name comes to the place where it stands. -/
theorem settled (stands : workspace.Stands path here) :
    settle (workspace.startOf path.fromRoot ++ path.components) = here := by
  induction stands with
  | start fromRoot =>
      rw [List.append_nil]
      exact settle_plain _ (placed real (.start fromRoot)).2
  | @above path here _ _ induction =>
      have split : workspace.startOf (path.child "..").fromRoot ++ (path.child "..").components =
          (workspace.startOf path.fromRoot ++ path.components) ++ [".."] := by
        simp [PartialPath.child]
      rw [split, settle_concat, induction]
      simp
  | @entry path here name _ _ isName _ _ induction =>
      have split : workspace.startOf (path.child name).fromRoot ++ (path.child name).components =
          (workspace.startOf path.fromRoot ++ path.components) ++ [name] := by
        simp [PartialPath.child]
      rw [split, settle_name _ name isName, induction]

/-- A path leads where it stands, whether or not a last link is followed. -/
theorem arrives (stands : workspace.Stands path here) (followLast : Bool)
    (fits : namesBytes path.components < pathLimit) :
    workspace.arrive followLast path.toPath = .ok (.existing here) := by
  have checked := checked_of_names path.toPath (partial_is_single path) fits (noNull real stands)
  refine (arrive_ok_iff _ _ _ _).mpr ⟨⟨_, checked⟩, ?_⟩
  have reached := stands.stretch_on followLast []
  rw [List.append_nil, stretch_at_end] at reached
  have sameNames : path.toPath.components = path.components := rfl
  rw [start_of_partial, sameNames, walk, reached]

/-- What one more name leads to is told by what stands under it. -/
theorem arrives_below (stands : workspace.Stands path here) (name : String)
    (isName : IsEntryName name) (noNullInName : '\x00' ∉ name.toList)
    (isDirectory : workspace.files.entryAt? here = some .directory)
    (fits : namesBytes (path.child name).components < pathLimit) :
    workspace.arrive false (path.child name).toPath =
      .ok (if workspace.files.entryAt? (here ++ [name]) = none then .missing here name
        else .existing (here ++ [name])) := by
  have noNullInNames : ∀ other ∈ (path.child name).components, '\x00' ∉ other.toList := by
    intro other member
    rcases List.mem_append.mp member with isAbove | isLast
    · exact noNull real stands other isAbove
    · rw [List.mem_singleton.mp isLast]
      exact noNullInName
  have checked := checked_of_names _ (partial_is_single (path.child name)) fits noNullInNames
  refine (arrive_ok_iff _ _ _ _).mpr ⟨⟨_, checked⟩, ?_⟩
  have sameNames : (path.child name).toPath.components = path.components ++ [name] := rfl
  have sameRoot : (path.child name).fromRoot = path.fromRoot := rfl
  rw [start_of_partial, sameRoot, sameNames, walk, stands.stretch_on false [name], stretch_step,
    hop, if_pos isDirectory, if_neg isName.notDot, if_neg isName.notDots,
    if_neg (Nat.not_lt.mpr isName.short)]
  cases workspace.files.entryAt? (here ++ [name]) with
  | none => rfl
  | some entry => cases entry <;> rfl

/-- Whether one more name is a link is told by what stands under it. -/
theorem target_below (stands : workspace.Stands path here) (name : String)
    (isName : IsEntryName name) (noNullInName : '\x00' ∉ name.toList)
    (isDirectory : workspace.files.entryAt? here = some .directory)
    (fits : namesBytes (path.child name).components < pathLimit) :
    workspace.linkTarget? (path.child name).toPath =
      .ok (match workspace.files.entryAt? (here ++ [name]) with
        | some (.link target) => some target
        | _ => none) := by
  have arrived := arrives_below real stands name isName noNullInName isDirectory fits
  unfold linkTarget? lookUp
  cases found : workspace.files.node? (here ++ [name]) with
  | none => simp [arrived, Node.entryAt?, found, bind, Except.bind]
  | some node => cases node <;> simp [arrived, Node.entryAt?, Node.entry, found, bind, Except.bind]

end Real

end Stands

end Workspace

end ReadmePress
