import Mathlib.Tactic.SplitIfs
import ReadmePress.FileSystem.Canonical
import ReadmePress.Proofs.FileSystem.Entries

/-!
Path resolution asks a tree only what stands at places. A path that leads to a place keeps
leading there while nothing is removed, and a path that leads to a missing name leads to
whatever is put there. The number of links on the way is the same in both trees, so the limit on
links is met or missed alike.
-/

namespace ReadmePress

/-- What stands in one tree stands in another one too; only the contents of files may differ. -/
structure Node.KeptIn (before after : Node) : Prop where
  directory : ∀ location, before.entryAt? location = some .directory →
    after.entryAt? location = some .directory
  link : ∀ location target, before.entryAt? location = some (.link target) →
    after.entryAt? location = some (.link target)
  file : ∀ location content, before.entryAt? location = some (.file content) →
    ∃ other, after.entryAt? location = some (.file other)

namespace Workspace

/-- What one name does to a walk. -/
inductive Hop where
  | onward (place : Location)
  | halted (result : Stretch)

/-- What the name of an entry does. -/
def hopOnto (followLast : Bool) (here : Location) (name : String) (rest : List String) :
    Option Entry → Hop
  | none => .halted (if rest.isEmpty then .arrived (.missing here name) else .refused .notFound)
  | some (.link target) =>
      .halted
        (if followLast || !rest.isEmpty then .linked here target rest
        else .arrived (.existing (here ++ [name])))
  | some _ => .onward (here ++ [name])

/-- What a name does at a place, told by what stands there and at the next place. -/
def hop (files : Node) (followLast : Bool) (here : Location) (name : String)
    (rest : List String) : Hop :=
  if files.entryAt? here = some .directory then
    if name = "." then .onward here
    else if name = ".." then .onward here.dropLast
    else if nameLimit < name.utf8ByteSize then .halted (.refused .nameTooLong)
    else hopOnto followLast here name rest (files.entryAt? (here ++ [name]))
  else .halted (.refused .notDirectory)

theorem stretch_at_end (files : Node) (followLast : Bool) (here : Location) :
    stretch files followLast here [] = .arrived (.existing here) := by
  rfl

theorem stretch_step (files : Node) (followLast : Bool) (here : Location) (name : String)
    (rest : List String) :
    stretch files followLast here (name :: rest) =
      match hop files followLast here name rest with
      | .onward place => stretch files followLast place rest
      | .halted result => result := by
  cases found : files.node? here with
  | none => simp [stretch, hop, found, Node.entryAt?]
  | some node =>
      cases node with
      | file content => simp [stretch, hop, found, Node.entryAt?, Node.entry]
      | link target => simp [stretch, hop, found, Node.entryAt?, Node.entry]
      | directory entries =>
          have isDirectory : files.entryAt? here = some .directory := by
            simp [Node.entryAt?, found, Node.entry]
          have next : files.entryAt? (here ++ [name]) =
              (OrderedMap.find? entries name).map Node.entry := by
            rw [Node.entryAt?, Node.node_at_child files here name entries found]
          simp only [stretch, hop, found, next, if_pos isDirectory]
          by_cases isDot : name = "."
          · simp [isDot]
          by_cases isDots : name = ".."
          · simp [isDots]
          by_cases tooLong : nameLimit < name.utf8ByteSize
          · simp [isDot, isDots, tooLong]
          · simp only [isDot, isDots, tooLong, if_false]
            cases OrderedMap.find? entries name with
            | none => rfl
            | some child => cases child <;> rfl

/-- Only a last name that nothing stands under is missing. -/
theorem hop_onto_missing (followLast : Bool) (here : Location) (name : String)
    (rest : List String) (found : Option Entry) (directory : Location) (missing : String)
    (halted : hopOnto followLast here name rest found =
      .halted (.arrived (.missing directory missing))) :
    found = none ∧ rest = [] ∧ here = directory ∧ name = missing := by
  cases found with
  | none =>
      cases rest with
      | nil => simpa [hopOnto] using halted
      | cons next more => simp [hopOnto] at halted
  | some entry =>
      cases entry with
      | file content => simp [hopOnto] at halted
      | directory => simp [hopOnto] at halted
      | link target =>
          simp only [hopOnto, Hop.halted.injEq] at halted
          split_ifs at halted
          simp at halted

theorem hop_missing (files : Node) (followLast : Bool) (here : Location) (name : String)
    (rest : List String) (directory : Location) (missing : String)
    (halted : hop files followLast here name rest =
      .halted (.arrived (.missing directory missing))) :
    files.entryAt? directory = some .directory ∧
      files.entryAt? (directory ++ [missing]) = none := by
  unfold hop at halted
  split_ifs at halted with isDirectory isDot isDots tooLong
  · simp at halted
  · obtain ⟨absent, -, rfl, rfl⟩ := hop_onto_missing _ _ _ _ _ _ _ halted
    exact ⟨isDirectory, absent⟩
  · simp at halted

/-- A name that leads to a place or to a link does the same in every tree that keeps all this
one holds. -/
theorem hop_kept (before after : Node) (kept : before.KeptIn after) (followLast : Bool)
    (here : Location) (name : String) (rest : List String) :
    hop after followLast here name rest = hop before followLast here name rest ∨
      (∃ refusal, hop before followLast here name rest = .halted (.refused refusal)) ∨
      ∃ directory missing,
        hop before followLast here name rest =
          .halted (.arrived (.missing directory missing)) := by
  by_cases isDirectory : before.entryAt? here = some .directory
  · simp only [hop, if_pos isDirectory, if_pos (kept.directory here isDirectory)]
    split_ifs with isDot isDots tooLong
    · exact Or.inl rfl
    · exact Or.inl rfl
    · exact Or.inl rfl
    · cases found : before.entryAt? (here ++ [name]) with
      | none => cases rest <;> simp [hopOnto]
      | some entry =>
          cases entry with
          | file content =>
              obtain ⟨other, foundAfter⟩ := kept.file _ _ found
              exact Or.inl (by rw [foundAfter]; rfl)
          | link target => exact Or.inl (by rw [kept.link _ _ found])
          | directory => exact Or.inl (by rw [kept.directory _ found])
  · exact Or.inr (Or.inl ⟨.notDirectory, if_neg isDirectory⟩)

/-- A missing name is the last one, and leads on once something that is no link stands there. -/
theorem hop_filled (before after : Node) (kept : before.KeptIn after) (followLast : Bool)
    (here : Location) (name : String) (rest : List String) (directory : Location)
    (missing : String)
    (halted : hop before followLast here name rest =
      .halted (.arrived (.missing directory missing)))
    (entry : Entry) (filled : after.entryAt? (directory ++ [missing]) = some entry)
    (notLink : ∀ target, entry ≠ .link target) :
    rest = [] ∧ hop after followLast here name rest = .onward (directory ++ [missing]) := by
  unfold hop at halted ⊢
  split_ifs at halted with isDirectory isDot isDots tooLong
  · simp at halted
  · obtain ⟨-, isLast, rfl, rfl⟩ := hop_onto_missing _ _ _ _ _ _ _ halted
    refine ⟨isLast, ?_⟩
    rw [if_pos (kept.directory here isDirectory), if_neg isDot, if_neg isDots, if_neg tooLong,
      filled]
    cases entry with
    | file content => rfl
    | link target => exact absurd rfl (notLink target)
    | directory => rfl
  · simp at halted

theorem stretch_missing (files : Node) (followLast : Bool) (here : Location)
    (names : List String) (directory : Location) (missing : String)
    (arrived : stretch files followLast here names = .arrived (.missing directory missing)) :
    files.entryAt? directory = some .directory ∧
      files.entryAt? (directory ++ [missing]) = none := by
  induction names generalizing here with
  | nil => simp [stretch_at_end] at arrived
  | cons name rest induction =>
      rw [stretch_step] at arrived
      cases step : hop files followLast here name rest with
      | onward place =>
          rw [step] at arrived
          exact induction place arrived
      | halted result =>
          rw [step] at arrived
          obtain rfl : result = _ := arrived
          exact hop_missing files followLast here name rest directory missing step

theorem stretch_kept (before after : Node) (kept : before.KeptIn after) (followLast : Bool)
    (here : Location) (names : List String) :
    stretch after followLast here names = stretch before followLast here names ∨
      (∃ refusal, stretch before followLast here names = .refused refusal) ∨
      ∃ directory missing,
        stretch before followLast here names = .arrived (.missing directory missing) := by
  induction names generalizing here with
  | nil => exact Or.inl rfl
  | cons name rest induction =>
      rw [stretch_step before, stretch_step after]
      rcases hop_kept before after kept followLast here name rest with
        same | ⟨refusal, refused⟩ | ⟨directory, missing, arrived⟩
      · rw [same]
        cases hop before followLast here name rest with
        | onward place => exact induction place
        | halted result => exact Or.inl rfl
      · exact Or.inr (Or.inl ⟨refusal, by rw [refused]⟩)
      · exact Or.inr (Or.inr ⟨directory, missing, by rw [arrived]⟩)

theorem stretch_filled (before after : Node) (kept : before.KeptIn after) (followLast : Bool)
    (here : Location) (names : List String) (directory : Location) (missing : String)
    (arrived : stretch before followLast here names = .arrived (.missing directory missing))
    (entry : Entry) (filled : after.entryAt? (directory ++ [missing]) = some entry)
    (notLink : ∀ target, entry ≠ .link target) :
    stretch after followLast here names = .arrived (.existing (directory ++ [missing])) := by
  induction names generalizing here with
  | nil => simp [stretch_at_end] at arrived
  | cons name rest induction =>
      rw [stretch_step before] at arrived
      cases step : hop before followLast here name rest with
      | onward place =>
          rw [step] at arrived
          have continued := induction place arrived
          rcases hop_kept before after kept followLast here name rest with
            same | ⟨refusal, refused⟩ | ⟨_, _, missed⟩
          · rw [stretch_step after, same, step]
            exact continued
          · simp [step] at refused
          · simp [step] at missed
      | halted result =>
          rw [step] at arrived
          obtain rfl : result = _ := arrived
          obtain ⟨rfl, onward⟩ := hop_filled before after kept followLast here name rest
            directory missing step entry filled notLink
          rw [stretch_step after, onward]
          rfl

theorem walk_missing (files : Node) (followLast : Bool) (links : Nat) (here : Location)
    (names : List String) (directory : Location) (missing : String)
    (arrived : walk files followLast links here names = .ok (.missing directory missing)) :
    files.entryAt? directory = some .directory ∧
      files.entryAt? (directory ++ [missing]) = none := by
  fun_induction walk files followLast links here names with
  | case1 links here names arrival reached =>
      obtain rfl : arrival = _ := by simpa using arrived
      exact stretch_missing files followLast here names directory missing reached
  | case2 links here names refusal refused => simp at arrived
  | case3 here names link target rest linked => simp at arrived
  | case4 here names link target rest linked left induction => exact induction arrived

/-- A path that leads to a place leads there in every tree that keeps all this one holds. -/
theorem walk_kept (before after : Node) (kept : before.KeptIn after) (followLast : Bool)
    (links : Nat) (here : Location) (names : List String) (location : Location)
    (arrived : walk before followLast links here names = .ok (.existing location)) :
    walk after followLast links here names = .ok (.existing location) := by
  fun_induction walk before followLast links here names with
  | case1 links here names arrival reached =>
      obtain rfl : arrival = _ := by simpa using arrived
      rcases stretch_kept before after kept followLast here names with
        same | ⟨refusal, refused⟩ | ⟨directory, missing, missed⟩
      · rw [walk, same, reached]
      · simp [reached] at refused
      · simp [reached] at missed
  | case2 links here names refusal refused => simp at arrived
  | case3 here names link target rest linked => simp at arrived
  | case4 here names link target rest linked left induction =>
      rcases stretch_kept before after kept followLast here names with
        same | ⟨refusal, refused⟩ | ⟨directory, missing, missed⟩
      · rw [walk, same, linked]
        exact induction arrived
      · simp [linked] at refused
      · simp [linked] at missed

/-- A path that leads to a missing name leads to what is put there, unless that is a link. -/
theorem walk_filled (before after : Node) (kept : before.KeptIn after) (followLast : Bool)
    (links : Nat) (here : Location) (names : List String) (directory : Location)
    (missing : String)
    (arrived : walk before followLast links here names = .ok (.missing directory missing))
    (entry : Entry) (filled : after.entryAt? (directory ++ [missing]) = some entry)
    (notLink : ∀ target, entry ≠ .link target) :
    walk after followLast links here names = .ok (.existing (directory ++ [missing])) := by
  fun_induction walk before followLast links here names with
  | case1 links here names arrival reached =>
      obtain rfl : arrival = _ := by simpa using arrived
      rw [walk, stretch_filled before after kept followLast here names directory missing reached
        entry filled notLink]
  | case2 links here names refusal refused => simp at arrived
  | case3 here names link target rest linked => simp at arrived
  | case4 here names link target rest linked left induction =>
      rcases stretch_kept before after kept followLast here names with
        same | ⟨refusal, refused⟩ | ⟨_, _, missed⟩
      · rw [walk, same, linked]
        exact induction arrived
      · simp [linked] at refused
      · simp [linked] at missed

/-- Following a last link only matters where the path would end at a place otherwise. -/
theorem stretch_follow (files : Node) (here : Location) (names : List String) :
    stretch files true here names = stretch files false here names ∨
      ∃ location, stretch files false here names = .arrived (.existing location) := by
  induction names generalizing here with
  | nil => exact Or.inl rfl
  | cons name rest induction =>
      rw [stretch_step, stretch_step]
      unfold hop
      split_ifs with isDirectory isDot isDots tooLong
      · exact induction here
      · exact induction here.dropLast
      · exact Or.inl rfl
      · cases files.entryAt? (here ++ [name]) with
        | none => exact Or.inl rfl
        | some entry =>
            cases entry with
            | file content => exact induction (here ++ [name])
            | directory => exact induction (here ++ [name])
            | link target => cases rest <;> simp [hopOnto]
      · exact Or.inl rfl

theorem walk_follow_missing (files : Node) (links : Nat) (here : Location)
    (names : List String) (directory : Location) (missing : String)
    (arrived : walk files false links here names = .ok (.missing directory missing)) :
    walk files true links here names = .ok (.missing directory missing) := by
  fun_induction walk files false links here names with
  | case1 links here names arrival reached =>
      obtain rfl : arrival = _ := by simpa using arrived
      rcases stretch_follow files here names with same | ⟨location, existing⟩
      · rw [walk, same, reached]
      · simp [reached] at existing
  | case2 links here names refusal refused => simp at arrived
  | case3 here names link target rest linked => simp at arrived
  | case4 here names link target rest linked left induction =>
      rcases stretch_follow files here names with same | ⟨location, existing⟩
      · rw [walk, same, linked]
        exact induction arrived
      · simp [linked] at existing

/-- The file system is asked about every path without a null character that is not too long. -/
theorem checked_text_iff (path : Path) (text : String) :
    checkedText path = .ok text ↔
      text = path.text ∧ '\x00' ∉ path.text.toList ∧ path.text.utf8ByteSize < pathLimit := by
  by_cases null : '\x00' ∈ path.text.toList
  · simp [checkedText, null]
  · by_cases fits : path.text.utf8ByteSize < pathLimit
    · simp [checkedText, null, fits, Nat.not_le_of_lt fits, eq_comm]
    · simp [checkedText, null, fits, Nat.le_of_not_lt fits]

/-- A path arrives where the walk of its names does, if the file system can be asked about its
text at all. -/
theorem arrive_ok_iff (workspace : Workspace) (followLast : Bool) (path : Path)
    (arrival : Arrival) :
    workspace.arrive followLast path = .ok arrival ↔
      (∃ text, checkedText path = .ok text) ∧
        walk workspace.files followLast linkLimit
          (if path.isAbsolute then [] else workspace.workingDirectory) path.components =
            .ok arrival := by
  unfold arrive
  cases checkedText path with
  | error fault => simp [bind, Except.bind]
  | ok text =>
      simp only [bind, Except.bind]
      cases walk workspace.files followLast linkLimit
          (if path.isAbsolute then [] else workspace.workingDirectory) path.components with
      | error refusal => simp
      | ok reached => simp

theorem look_up_ok_iff (workspace : Workspace) (followLast : Bool) (path : Path)
    (location : Location) (node : Node) :
    workspace.lookUp followLast path = .ok (location, node) ↔
      workspace.arrive followLast path = .ok (.existing location) ∧
        workspace.files.node? location = some node := by
  unfold lookUp
  cases workspace.arrive followLast path with
  | error fault => simp [bind, Except.bind]
  | ok arrival =>
      cases arrival with
      | missing directory name => simp [bind, Except.bind]
      | existing place =>
          simp only [bind, Except.bind, Except.ok.injEq, Arrival.existing.injEq]
          cases found : workspace.files.node? place with
          | none =>
              constructor
              · exact nofun
              · rintro ⟨rfl, present⟩
                exact absurd (found.symm.trans present) nofun
          | some held =>
              simp only [Except.ok.injEq, Prod.mk.injEq]
              constructor
              · rintro ⟨rfl, rfl⟩
                exact ⟨rfl, found⟩
              · rintro ⟨rfl, present⟩
                exact ⟨rfl, Option.some.inj (found.symm.trans present)⟩

theorem read_bytes_ok_iff (workspace : Workspace) (path : Path) (content : List UInt8) :
    workspace.readBytes path = .ok content ↔
      ∃ location, workspace.lookUp true path = .ok (location, .file content) := by
  unfold readBytes
  cases workspace.lookUp true path with
  | error fault => simp [bind, Except.bind]
  | ok place =>
      obtain ⟨location, node⟩ := place
      cases node <;> simp [bind, Except.bind]

/-- The same surroundings with another tree of files. -/
def withFiles (workspace : Workspace) (files : Node) : Workspace :=
  { workspace with files := files }

@[simp]
theorem files_with_files (workspace : Workspace) (files : Node) :
    (workspace.withFiles files).files = files := by
  rfl

theorem arrive_missing (workspace : Workspace) (followLast : Bool) (path : Path)
    (directory : Location) (missing : String)
    (arrived : workspace.arrive followLast path = .ok (.missing directory missing)) :
    workspace.files.entryAt? directory = some .directory ∧
      workspace.files.entryAt? (directory ++ [missing]) = none := by
  rw [arrive_ok_iff] at arrived
  exact walk_missing _ _ _ _ _ _ _ arrived.2

theorem arrive_kept (workspace : Workspace) (after : Node)
    (kept : workspace.files.KeptIn after) (followLast : Bool) (path : Path)
    (location : Location)
    (arrived : workspace.arrive followLast path = .ok (.existing location)) :
    (workspace.withFiles after).arrive followLast path = .ok (.existing location) := by
  rw [arrive_ok_iff] at arrived ⊢
  exact ⟨arrived.1, walk_kept _ _ kept _ _ _ _ _ arrived.2⟩

theorem arrive_filled (workspace : Workspace) (after : Node)
    (kept : workspace.files.KeptIn after) (followLast : Bool) (path : Path)
    (directory : Location) (missing : String)
    (arrived : workspace.arrive followLast path = .ok (.missing directory missing))
    (entry : Entry) (filled : after.entryAt? (directory ++ [missing]) = some entry)
    (notLink : ∀ target, entry ≠ .link target) :
    (workspace.withFiles after).arrive followLast path =
      .ok (.existing (directory ++ [missing])) := by
  rw [arrive_ok_iff] at arrived ⊢
  exact ⟨arrived.1, walk_filled _ _ kept _ _ _ _ _ _ arrived.2 entry filled notLink⟩

theorem arrive_follow_missing (workspace : Workspace) (path : Path) (directory : Location)
    (missing : String)
    (arrived : workspace.arrive false path = .ok (.missing directory missing)) :
    workspace.arrive true path = .ok (.missing directory missing) := by
  rw [arrive_ok_iff] at arrived ⊢
  exact ⟨arrived.1, walk_follow_missing _ _ _ _ _ _ arrived.2⟩

/-- Only a path with a last name can lead to a missing one. -/
theorem components_of_missing (workspace : Workspace) (followLast : Bool) (path : Path)
    (directory : Location) (missing : String)
    (arrived : workspace.arrive followLast path = .ok (.missing directory missing)) :
    0 < path.components.length := by
  rw [arrive_ok_iff] at arrived
  cases noNames : path.components with
  | nil =>
      rw [noNames, walk, stretch_at_end] at arrived
      simp at arrived
  | cons name rest => simp

theorem hop_onto_outline (followLast : Bool) (here : Location) (name : String)
    (rest : List String) (found : Option Entry) :
    hopOnto followLast here name rest (found.map Entry.outline) =
      hopOnto followLast here name rest found := by
  cases found with
  | none => rfl
  | some entry => cases entry <;> rfl

/-- A name does the same in trees of one outline. -/
theorem hop_same (files others : Node) (same : files.SameOutline others) (followLast : Bool)
    (here : Location) (name : String) (rest : List String) :
    hop others followLast here name rest = hop files followLast here name rest := by
  have onto := hop_onto_outline followLast here name rest
  simp only [hop, Node.directory_of_outline files others same]
  rw [← onto (others.entryAt? (here ++ [name])), same, onto]

theorem stretch_same (files others : Node) (same : files.SameOutline others)
    (followLast : Bool) (here : Location) (names : List String) :
    stretch others followLast here names = stretch files followLast here names := by
  induction names generalizing here with
  | nil => rfl
  | cons name rest induction =>
      rw [stretch_step, stretch_step, hop_same files others same]
      cases hop files followLast here name rest with
      | onward place => exact induction place
      | halted result => rfl

theorem walk_same (files others : Node) (same : files.SameOutline others)
    (followLast : Bool) (links : Nat) (here : Location) (names : List String) :
    walk others followLast links here names = walk files followLast links here names := by
  fun_induction walk files followLast links here names with
  | case1 links here names arrival reached =>
      rw [walk, stretch_same files others same, reached]
  | case2 links here names refusal refused =>
      rw [walk, stretch_same files others same, refused]
  | case3 here names link target rest linked =>
      rw [walk, stretch_same files others same, linked]
  | case4 here names link target rest linked left induction =>
      rw [walk, stretch_same files others same, linked]
      exact induction

/-- Neither the order of the entries in directories nor the contents of files matter to a path. -/
theorem arrive_same (workspace : Workspace) (others : Node)
    (same : workspace.files.SameOutline others) (followLast : Bool) (path : Path) :
    (workspace.withFiles others).arrive followLast path = workspace.arrive followLast path := by
  have sameWalk := walk_same workspace.files others same followLast
  simp only [arrive, withFiles, sameWalk]

/-- The question whether a path names a directory is answered by what stands where it leads. -/
theorem is_directory_eq (workspace : Workspace) (path : Path) :
    workspace.isDirectory path =
      match workspace.arrive true path with
      | .ok (.existing location) =>
          .ok (decide (workspace.files.entryAt? location = some .directory))
      | .ok (.missing _ _) => .ok false
      | .error (.refused refusal text) =>
          if refusal.meansAbsent then .ok false else .error (.refused refusal text)
      | .error .embeddedNull => .ok false := by
  simp only [isDirectory, ask, lookUp]
  cases workspace.arrive true path with
  | error fault => cases fault <;> rfl
  | ok arrival =>
      cases arrival with
      | missing directory name => rfl
      | existing location =>
          simp only [bind, Except.bind]
          cases found : workspace.files.node? location with
          | none => simp [Node.entryAt?, found, Refusal.meansAbsent]
          | some node =>
              cases node <;> simp [Node.entryAt?, found, Node.isDirectory, Node.entry]

theorem is_directory_same (workspace : Workspace) (others : Node)
    (same : workspace.files.SameOutline others) (path : Path) :
    (workspace.withFiles others).isDirectory path = workspace.isDirectory path := by
  rw [is_directory_eq, is_directory_eq, arrive_same workspace others same, files_with_files]
  simp only [Node.directory_of_outline workspace.files others same]

/-- A path that names a directory leads to one, and looking it up gives its entries. -/
theorem directory_of_path (workspace : Workspace) (path : Path)
    (isDirectory : workspace.isDirectory path = .ok true) :
    ∃ location entries, workspace.arrive true path = .ok (.existing location) ∧
      workspace.files.node? location = some (.directory entries) ∧
      workspace.lookUp true path = .ok (location, .directory entries) := by
  rw [is_directory_eq] at isDirectory
  split at isDirectory
  next location leads =>
    simp only [Except.ok.injEq, decide_eq_true_eq] at isDirectory
    obtain ⟨entries, found⟩ := (Node.entry_at_eq_directory_iff _ _).mp isDirectory
    refine ⟨location, entries, leads, found, ?_⟩
    simp [lookUp, leads, found, bind, Except.bind]
  next => simp at isDirectory
  next =>
    split_ifs at isDirectory
    simp at isDirectory
  next => simp at isDirectory

theorem resolve_names_done (workspace : Workspace) (depth : Nat) (path : PartialPath)
    (seen : List (PartialPath × Option PartialPath)) :
    workspace.resolveNames depth path [] seen =
      .ok { path := path, complete := true, seen := seen } := by
  rw [resolveNames]

/-- A name that is no link is resolved to itself. -/
theorem resolve_names_step (workspace : Workspace) (depth : Nat) (path : PartialPath)
    (name : String) (rest : List String) (seen : List (PartialPath × Option PartialPath))
    (isName : name ≠ "" ∧ name ≠ "." ∧ name ≠ "..")
    (noLink : workspace.linkTarget? (path.child name).toPath = .ok none) :
    workspace.resolveNames depth path (name :: rest) seen =
      workspace.resolveNames depth (path.child name) rest seen := by
  obtain ⟨notEmpty, notDot, notDots⟩ := isName
  rw [resolveNames, if_neg (by simp [notEmpty, notDot]), if_neg notDots]
  simp only [noLink]
  rfl

/-- A resolved path that leads to an entry is canonical. -/
theorem canonical_of_resolved (workspace : Workspace) (path result : Path)
    (resolution : Resolution) (place : Location × Node)
    (resolved : workspace.resolveNames resolutionDepth
      { fromRoot := path.isAbsolute, components := [] } path.components [] = .ok resolution)
    (settled : Path.ofLocation (settle
      (if resolution.path.fromRoot then resolution.path.components
        else workspace.workingDirectory ++ resolution.path.components)) = result)
    (found : workspace.lookUp true result = .ok place) :
    workspace.canonical path = .ok result := by
  rw [canonical, resolved]
  simp only [bind, Except.bind]
  rw [settled, found]

end Workspace

end ReadmePress
