import ReadmePress.Proofs.FileSystem.Resolution
import ReadmePress.Proofs.FileSystem.WellFormed
import ReadmePress.Proofs.Glob
import ReadmePress.Proofs.SortedSet
import ReadmePress.Reading

/-!
Which paths a scan lists: those of files, or of directories besides, that no name on the way
hides, no link leads to, no pattern shuts off on the way and the patterns select. They come in
strictly increasing order, and the order of the entries in a directory does not matter.
-/

namespace ReadmePress

/-- The path of a place seen from the root of a scan. -/
def relativePath (names : Location) : String := "/".intercalate names

/-- The names in a path that a scan lists. -/
def pathNames (path : String) : Location := (path.toList.splitOn '/').map String.ofList

theorem relative_path_names (path : String) : relativePath (pathNames path) = path := by
  apply String.toList_inj.mp
  have slash : "/".toList = ['/'] := rfl
  have back : (pathNames path).map String.toList = path.toList.splitOn '/' := by
    simp [pathNames, Function.comp_def]
  rw [relativePath, String.toList_intercalate, back, slash, List.intercalate_splitOn]

theorem path_names_relative (names : Location) (isSome : names ≠ [])
    (components : ∀ name ∈ names, IsComponent name) : pathNames (relativePath names) = names := by
  have slash : "/".toList = ['/'] := rfl
  have noSlash : ∀ text ∈ names.map String.toList, '/' ∉ text := by
    intro text member
    obtain ⟨name, isName, rfl⟩ := List.mem_map.mp member
    exact (components name isName).2
  rw [pathNames, relativePath, String.toList_intercalate, slash,
    List.splitOn_intercalate '/' noSlash (by simpa using isSome)]
  simp [Function.comp_def]

theorem path_names_ne_nil (path : String) : pathNames path ≠ [] := by
  simp [pathNames]

theorem path_below_eq (front : Location) (name : String)
    (named : ∀ known ∈ front, IsComponent known) :
    pathBelow (relativePath front) name = relativePath (front ++ [name]) := by
  cases front with
  | nil => simp [pathBelow, relativePath]
  | cons first rest =>
      have notEmpty : relativePath (first :: rest) ≠ "" := by
        have firstNamed := (named first List.mem_cons_self).1
        cases rest with
        | nil => simpa [relativePath] using firstNamed
        | cons second more =>
            rw [relativePath, String.intercalate_cons_cons]
            simp [firstNamed]
      rw [pathBelow, if_neg notEmpty, relativePath, relativePath,
        String.intercalate_append_of_ne_nil (by simp) (by simp), String.intercalate_singleton]

namespace Selection

/-- An entry at or below a node, whose own path is given by its names, is listed by a scan that
comes to the node. -/
structure Shows (selection : Selection) (front back : Location) (node : Node) : Prop where
  visible : ∀ name ∈ back, isHidden name = false
  entered : ∀ count < back.length,
    selection.globs.excludes (relativePath (front ++ back.take count)) = false
  selected : selection.globs.selects (relativePath (front ++ back)) = true
  listed : (∃ content, node.entryAt? back = some (.file content)) ∨
    (selection.listDirectories = true ∧ node.entryAt? back = some .directory)

theorem shows_here_iff (selection : Selection) (front : Location) (node : Node) :
    selection.Shows front [] node ↔
      selection.globs.selects (relativePath front) = true ∧
        ((∃ content, node = .file content) ∨
          (selection.listDirectories = true ∧ node.isDirectory = true)) := by
  constructor
  · rintro ⟨-, -, selected, listed⟩
    rw [List.append_nil] at selected
    refine ⟨selected, ?_⟩
    cases node <;> simp_all [Node.entry, Node.isDirectory]
  · rintro ⟨selected, listed⟩
    refine ⟨by simp, by simp, by simpa using selected, ?_⟩
    cases node <;> simp_all [Node.entry, Node.isDirectory]

theorem shows_below_iff (selection : Selection) (front : Location)
    (entries : List (String × Node)) (name : String) (back : Location) :
    selection.Shows front (name :: back) (.directory entries) ↔
      isHidden name = false ∧ selection.globs.excludes (relativePath front) = false ∧
        ∃ child, OrderedMap.find? entries name = some child ∧
          selection.Shows (front ++ [name]) back child := by
  constructor
  · rintro ⟨visible, entered, selected, listed⟩
    have notExcluded := entered 0 (by simp)
    rw [List.take_zero, List.append_nil] at notExcluded
    refine ⟨visible name List.mem_cons_self, notExcluded, ?_⟩
    simp only [Node.entry_at_below] at listed
    cases found : OrderedMap.find? entries name with
    | none => simp [found] at listed
    | some child =>
        refine ⟨child, rfl, ?_, ?_, ?_, ?_⟩
        · exact fun other member => visible other (List.mem_cons_of_mem name member)
        · intro count bound
          have notExcludedBelow := entered (count + 1) (by simpa using bound)
          rw [List.take_succ_cons] at notExcludedBelow
          rw [List.append_assoc]
          exact notExcludedBelow
        · rw [List.append_assoc]
          exact selected
        · simpa [found] using listed
  · rintro ⟨notHidden, notExcluded, child, found, visible, entered, selected, listed⟩
    rw [List.append_assoc] at selected
    refine ⟨?_, ?_, selected, ?_⟩
    · intro other member
      rcases List.mem_cons.mp member with rfl | isLater
      · exact notHidden
      · exact visible other isLater
    · intro count bound
      cases count with
      | zero =>
          rw [List.take_zero, List.append_nil]
          exact notExcluded
      | succ count =>
          have notExcludedBelow := entered count (by simpa using bound)
          rw [List.append_assoc] at notExcludedBelow
          rw [List.take_succ_cons]
          exact notExcludedBelow
    · simpa [Node.entry_at_below, found] using listed

/-- A scan of a node lists what it shows there. -/
def ScansNode (selection : Selection) (node : Node) : Prop :=
  ∀ front, (∀ name ∈ front, IsComponent name) → ∀ path,
    path ∈ selection.scanNode (relativePath front) node ↔
      ∃ back, path = relativePath (front ++ back) ∧ selection.Shows front back node

theorem mem_scan_entries_of (selection : Selection) (entries : List (String × Node))
    (front : Location) (path : String) (named : ∀ name ∈ front, IsComponent name)
    (components : ∀ entry ∈ entries, IsComponent entry.1)
    (scanned : ∀ entry ∈ entries, selection.ScansNode entry.2) :
    path ∈ selection.scanEntries (relativePath front) entries ↔
      ∃ name child back, (name, child) ∈ entries ∧ isHidden name = false ∧
        path = relativePath (front ++ name :: back) ∧
        selection.Shows (front ++ [name]) back child := by
  induction entries with
  | nil => simp [scanEntries]
  | cons entry rest induction =>
      obtain ⟨first, child⟩ := entry
      have firstComponent := components _ List.mem_cons_self
      have namedBelow : ∀ name ∈ front ++ [first], IsComponent name := by
        intro name member
        rcases List.mem_append.mp member with before | isFirst
        · exact named name before
        · rw [List.mem_singleton.mp isFirst]
          exact firstComponent
      have here := scanned _ List.mem_cons_self (front ++ [first]) namedBelow path
      have others := induction
        (fun entry member => components entry (List.mem_cons_of_mem _ member))
        (fun entry member => scanned entry (List.mem_cons_of_mem _ member))
      rw [scanEntries, List.mem_append, others, path_below_eq front first named]
      constructor
      · rintro (listed | ⟨name, node, back, member, found⟩)
        · split at listed
          next => simp at listed
          next notHidden =>
            obtain ⟨back, rfl, shows⟩ := here.mp listed
            rw [List.append_assoc]
            exact ⟨first, child, back, List.mem_cons_self, by simpa using notHidden, rfl, shows⟩
        · exact ⟨name, node, back, List.mem_cons_of_mem _ member, found⟩
      · rintro ⟨name, node, back, member, notHidden, rfl, shows⟩
        rcases List.mem_cons.mp member with same | isLater
        · obtain ⟨rfl, rfl⟩ := Prod.mk.inj same
          rw [if_neg (by simp [notHidden])]
          refine Or.inl (here.mpr ⟨back, ?_, shows⟩)
          rw [List.append_assoc]
          rfl
        · exact Or.inr ⟨name, node, back, isLater, notHidden, rfl, shows⟩

theorem scans_file (selection : Selection) (content : List UInt8) :
    selection.ScansNode (.file content) := by
  intro front named path
  constructor
  · intro listed
    rw [scanNode] at listed
    split at listed
    next selected =>
      rw [List.mem_singleton.mp listed]
      refine ⟨[], by rw [List.append_nil], ?_⟩
      exact (shows_here_iff selection front _).mpr ⟨selected, Or.inl ⟨content, rfl⟩⟩
    next => simp at listed
  · rintro ⟨back, rfl, shows⟩
    cases back with
    | nil =>
        have selected := ((shows_here_iff selection front _).mp shows).1
        rw [scanNode, if_pos selected, List.append_nil]
        exact List.mem_singleton_self _
    | cons name rest => simpa [Node.entryAt?, Node.node?] using shows.listed

theorem scans_link (selection : Selection) (target : String) :
    selection.ScansNode (.link target) := by
  intro front named path
  constructor
  · intro listed
    simp [scanNode] at listed
  · rintro ⟨back, rfl, shows⟩
    have listed := shows.listed
    cases back <;> simp [Node.entryAt?, Node.node?, Node.entry] at listed

theorem scans_directory (selection : Selection) (entries : List (String × Node))
    (wellFormed : (Node.directory entries).WellFormed)
    (scanned : ∀ entry ∈ entries, selection.ScansNode entry.2) :
    selection.ScansNode (.directory entries) := by
  intro front named path
  have components : ∀ entry ∈ entries, IsComponent entry.1 := fun entry member =>
    (Node.entry_well_formed entries entry.1 entry.2 wellFormed member).1
  have below := mem_scan_entries_of selection entries front path named components scanned
  rw [scanNode]
  split
  next excluded =>
    constructor
    · intro impossible
      simp at impossible
    · rintro ⟨back, rfl, shows⟩
      cases back with
      | nil =>
          have selected := ((shows_here_iff selection front _).mp shows).1
          simp [GlobSet.selects, excluded] at selected
      | cons name rest =>
          have notExcluded := ((shows_below_iff selection front entries name rest).mp shows).2.1
          simp [excluded] at notExcluded
  next notExcluded =>
    have notExcluded : selection.globs.excludes (relativePath front) = false := by
      simpa using notExcluded
    rw [List.mem_append, below]
    constructor
    · rintro (listed | ⟨name, child, back, member, notHidden, rfl, shows⟩)
      · split at listed
        next wanted =>
          rw [Bool.and_eq_true] at wanted
          rw [List.mem_singleton.mp listed]
          refine ⟨[], by rw [List.append_nil], (shows_here_iff selection front _).mpr ?_⟩
          exact ⟨by simp [GlobSet.selects, wanted.2, notExcluded], Or.inr ⟨wanted.1, rfl⟩⟩
        next => simp at listed
      · refine ⟨name :: back, rfl, (shows_below_iff selection front entries name back).mpr ?_⟩
        have found := (Node.find_iff_mem entries name child wellFormed).mpr member
        exact ⟨notHidden, notExcluded, child, found, shows⟩
    · rintro ⟨back, rfl, shows⟩
      cases back with
      | nil =>
          obtain ⟨selected, ⟨content, isFile⟩ | ⟨wanted, -⟩⟩ :=
            (shows_here_iff selection front _).mp shows
          · simp at isFile
          · have includes : selection.globs.includes (relativePath front) = true := by
              simp only [GlobSet.selects, Bool.and_eq_true] at selected
              exact selected.1
            apply Or.inl
            rw [if_pos (by simp [wanted, includes]), List.append_nil]
            exact List.mem_singleton_self _
      | cons name rest =>
          obtain ⟨notHidden, -, child, found, showsBelow⟩ :=
            (shows_below_iff selection front entries name rest).mp shows
          exact Or.inr ⟨name, child, rest, OrderedMap.mem_of_find entries name child found,
            notHidden, rfl, showsBelow⟩

theorem scans_node (selection : Selection) (node : Node) (wellFormed : node.WellFormed) :
    selection.ScansNode node := by
  induction node using Node.induction_on_entries with
  | file content => exact scans_file selection content
  | link target => exact scans_link selection target
  | directory entries induction =>
      apply scans_directory selection entries wellFormed
      intro entry member
      exact induction entry member
        (Node.entry_well_formed entries entry.1 entry.2 wellFormed member).2

theorem mem_scan_entries (selection : Selection) (entries : List (String × Node))
    (wellFormed : (Node.directory entries).WellFormed) (path : String) :
    path ∈ selection.scanEntries "" entries ↔
      ∃ name child back, (name, child) ∈ entries ∧ isHidden name = false ∧
        path = relativePath (name :: back) ∧ selection.Shows [name] back child := by
  apply mem_scan_entries_of selection entries [] path (by simp)
  · exact fun entry member => (Node.entry_well_formed entries entry.1 entry.2 wellFormed member).1
  · intro entry member
    exact scans_node selection entry.2
      (Node.entry_well_formed entries entry.1 entry.2 wellFormed member).2

end Selection

/-- A path below a directory that patterns select, with nothing hidden, linked or shut off on
the way, and that names a file, or a directory where these are listed. -/
structure Node.Listed (files : Node) (root : Location) (included excluded : List String)
    (listDirectories : Bool) (path : String) : Prop where
  visible : ∀ name ∈ pathNames path, name.toList.head? ≠ some '.'
  unlinked : ∀ count ≤ (pathNames path).length, 0 < count →
    ∀ target, files.entryAt? (root ++ (pathNames path).take count) ≠ some (.link target)
  entered : ∀ count < (pathNames path).length, 0 < count → ∀ pattern ∈ excluded,
    (Glob.ofString pattern).matchesPath (relativePath ((pathNames path).take count)) = false
  included : ∃ pattern ∈ included, (Glob.ofString pattern).matchesPath path = true
  notExcluded : ∀ pattern ∈ excluded, (Glob.ofString pattern).matchesPath path = false
  entry : (∃ content, files.entryAt? (root ++ pathNames path) = some (.file content)) ∨
    (listDirectories = true ∧ files.entryAt? (root ++ pathNames path) = some .directory)

namespace Node

theorem entry_at_append (files node : Node) (front back : Location)
    (found : files.node? front = some node) :
    files.entryAt? (front ++ back) = node.entryAt? back := by
  rw [entryAt?, entryAt?, node_at_append, found]
  rfl

/-- No link stands on the way to an entry that is none. -/
theorem unlinked_above (files : Node) (location : Location) (count : Nat) (entry : Entry)
    (found : files.entryAt? location = some entry) (notLink : ∀ target, entry ≠ .link target)
    (target : String) : files.entryAt? (location.take count) ≠ some (.link target) := by
  intro isLink
  by_cases whole : location.length ≤ count
  · rw [List.take_of_length_le whole, found, Option.some.injEq] at isLink
    exact notLink target isLink
  · have bound : count < location.length := by omega
    rw [← List.take_append_drop count location, List.drop_eq_getElem_cons bound] at found
    obtain ⟨node, foundAbove, isLinkNode⟩ := Option.map_eq_some_iff.mp isLink
    rw [entry_at_append files node _ _ foundAbove] at found
    cases node with
    | file content => simp [Node.entry] at isLinkNode
    | link other => simp [entryAt?, node?] at found
    | directory entries => simp [Node.entry] at isLinkNode

/-- What is listed below a directory is shown at one of its entries. -/
theorem shows_of_listed (files : Node) (root : Location) (entries : List (String × Node))
    (found : files.node? root = some (.directory entries))
    (included excluded : List String) (listDirectories : Bool) (path : String)
    (listed : files.Listed root included excluded listDirectories path) :
    ∃ name child back, (name, child) ∈ entries ∧ isHidden name = false ∧
      path = relativePath (name :: back) ∧
      Selection.Shows
        { globs := GlobSet.ofPatterns included excluded, listDirectories := listDirectories }
        [name] back child := by
  obtain ⟨visible, -, entered, isIncluded, notExcluded, isEntry⟩ := listed
  cases names : pathNames path with
  | nil => exact absurd names (path_names_ne_nil path)
  | cons name back =>
      have whole : path = relativePath (name :: back) := by
        rw [← names, relative_path_names]
      rw [names] at visible entered isEntry
      rw [entry_at_append files _ root _ found, entry_at_below] at isEntry
      cases present : OrderedMap.find? entries name with
      | none => simp [present] at isEntry
      | some child =>
          have member := OrderedMap.mem_of_find entries name child present
          refine ⟨name, child, back, member, ?_, whole, ?_, ?_, ?_, ?_⟩
          · simpa [isHidden] using visible name List.mem_cons_self
          · intro other isLater
            simpa [isHidden] using visible other (List.mem_cons_of_mem name isLater)
          · intro count bound
            apply (GlobSet.excludes_of_patterns included excluded _).mpr
            exact entered (count + 1) (by simpa using bound) (Nat.succ_pos count)
          · refine (GlobSet.selects_of_patterns included excluded _).mpr ⟨?_, ?_⟩
            · rw [List.singleton_append, ← whole]
              exact isIncluded
            · rw [List.singleton_append, ← whole]
              exact notExcluded
          · simpa [present] using isEntry

/-- What an entry of a directory shows is listed below the directory. -/
theorem listed_of_shows (files : Node) (root : Location) (entries : List (String × Node))
    (wellFormed : files.WellFormed) (found : files.node? root = some (.directory entries))
    (included excluded : List String) (listDirectories : Bool) (path : String)
    (name : String) (child : Node) (back : List String) (member : (name, child) ∈ entries)
    (notHidden : isHidden name = false) (whole : path = relativePath (name :: back))
    (shows : Selection.Shows
      { globs := GlobSet.ofPatterns included excluded, listDirectories := listDirectories }
      [name] back child) :
    files.Listed root included excluded listDirectories path := by
  have below := well_formed_below files (.directory entries) root wellFormed found
  obtain ⟨visible, entered, selected, listed⟩ := shows
  have present := (find_iff_mem entries name child below).mpr member
  have isEntry : (∃ content,
      files.entryAt? (root ++ name :: back) = some (.file content)) ∨
        (listDirectories = true ∧
          files.entryAt? (root ++ name :: back) = some .directory) := by
    simpa [entry_at_append files _ root _ found, entry_at_below, present] using listed
  have isFound : (Node.directory entries).entryAt? (name :: back) ≠ none := by
    rw [entry_at_below, present]
    rcases listed with ⟨content, isFile⟩ | ⟨-, isDirectory⟩
    · simp [isFile]
    · simp [isDirectory]
  have names : pathNames path = name :: back := by
    rw [whole]
    exact path_names_relative _ (by simp)
      (components_of_found _ _ below isFound)
  obtain ⟨isIncluded, notExcluded⟩ :=
    (GlobSet.selects_of_patterns included excluded _).mp selected
  rw [List.singleton_append, ← whole] at isIncluded notExcluded
  refine ⟨?_, ?_, ?_, isIncluded, notExcluded, ?_⟩
  · intro other isName
    rw [names] at isName
    rcases List.mem_cons.mp isName with rfl | isLater
    · simpa [isHidden] using notHidden
    · simpa [isHidden] using visible other isLater
  · intro count bound positive target
    rw [names, ← List.take_length_add_append]
    rcases isEntry with ⟨content, isFile⟩ | ⟨-, isDirectory⟩
    · exact unlinked_above files _ _ _ isFile (by simp) target
    · exact unlinked_above files _ _ _ isDirectory (by simp) target
  · intro count bound positive
    rw [names] at bound ⊢
    cases count with
    | zero => omega
    | succ count =>
        rw [List.take_succ_cons]
        exact (GlobSet.excludes_of_patterns included excluded _).mp
          (entered count (by simpa using bound))
  · rw [names]
    exact isEntry

theorem listed_iff (files : Node) (root : Location) (entries : List (String × Node))
    (wellFormed : files.WellFormed) (found : files.node? root = some (.directory entries))
    (included excluded : List String) (listDirectories : Bool) (path : String) :
    files.Listed root included excluded listDirectories path ↔
      ∃ name child back, (name, child) ∈ entries ∧ isHidden name = false ∧
        path = relativePath (name :: back) ∧
        Selection.Shows
          { globs := GlobSet.ofPatterns included excluded, listDirectories := listDirectories }
          [name] back child := by
  constructor
  · exact shows_of_listed files root entries found included excluded listDirectories path
  · rintro ⟨name, child, back, member, notHidden, whole, shows⟩
    exact listed_of_shows files root entries wellFormed found included excluded listDirectories
      path name child back member notHidden whole shows

theorem listed_same (files others : Node) (same : others.entryAt? = files.entryAt?)
    (root : Location) (included excluded : List String) (listDirectories : Bool)
    (path : String) (listed : files.Listed root included excluded listDirectories path) :
    others.Listed root included excluded listDirectories path := by
  obtain ⟨visible, unlinked, entered, isIncluded, notExcluded, isEntry⟩ := listed
  rw [← same] at unlinked isEntry
  exact ⟨visible, unlinked, entered, isIncluded, notExcluded, isEntry⟩

end Node

namespace Workspace

theorem scan_of_entries (workspace : Workspace) (root : Path) (selection : Selection)
    (location : Location) (entries : List (String × Node))
    (isDirectory : workspace.isDirectory root = .ok true)
    (lookedUp : workspace.lookUp true root = .ok (location, .directory entries)) :
    workspace.scan root selection =
      .ok (SortedSet.ofList (selection.scanEntries "" entries)) := by
  simp [scan, isDirectory, lookedUp, bind, Except.bind, Node.entries]

/-- A scan of a directory gives the listed paths in strictly increasing order. -/
theorem scan_of_directory (workspace : Workspace) (wellFormed : workspace.files.WellFormed)
    (root : Path) (included excluded : List String) (listDirectories : Bool)
    (isDirectory : workspace.isDirectory root = .ok true) :
    ∃ location paths, workspace.arrive true root = .ok (.existing location) ∧
      workspace.files.entryAt? location = some .directory ∧
      workspace.scan root
        { globs := GlobSet.ofPatterns included excluded, listDirectories } = .ok paths ∧
      paths.Pairwise (· < ·) ∧
      ∀ path, path ∈ paths ↔
        workspace.files.Listed location included excluded listDirectories path := by
  obtain ⟨location, entries, leads, found, lookedUp⟩ := directory_of_path workspace root isDirectory
  have entry := (Node.entry_at_eq_directory_iff _ _).mpr ⟨entries, found⟩
  have below := Node.well_formed_below workspace.files _ location wellFormed found
  have scanned := fun selection =>
    scan_of_entries workspace root selection location entries isDirectory lookedUp
  refine ⟨location, _, leads, entry, scanned _, SortedSet.of_list_sorted _, ?_⟩
  · intro path
    rw [SortedSet.mem_of_list, Selection.mem_scan_entries _ entries below]
    exact (Node.listed_iff workspace.files location entries wellFormed found included excluded
      listDirectories path).symm

theorem scan_of_no_directory (workspace : Workspace) (root : Path) (selection : Selection)
    (noDirectory : workspace.isDirectory root = .ok false) :
    workspace.scan root selection = .ok [] := by
  simp [scan, noDirectory, bind, Except.bind]

theorem scan_of_fault (workspace : Workspace) (root : Path) (selection : Selection)
    (fault : FileFault) (failed : workspace.isDirectory root = .error fault) :
    workspace.scan root selection = .error fault := by
  simp [scan, failed, bind, Except.bind]

/-- The order of the entries in directories does not matter to a scan. -/
theorem scan_same (workspace : Workspace) (others : Node)
    (wellFormed : workspace.files.WellFormed) (othersWellFormed : others.WellFormed)
    (same : others.entryAt? = workspace.files.entryAt?) (root : Path)
    (included excluded : List String) (listDirectories : Bool) :
    (workspace.withFiles others).scan root
        { globs := GlobSet.ofPatterns included excluded, listDirectories } =
      workspace.scan root
        { globs := GlobSet.ofPatterns included excluded, listDirectories } := by
  have sameOutline := Node.same_outline_of_entries workspace.files others same
  have sameAnswer := is_directory_same workspace others sameOutline root
  cases answer : workspace.isDirectory root with
  | error fault =>
      rw [answer] at sameAnswer
      rw [scan_of_fault _ root _ fault sameAnswer, scan_of_fault _ root _ fault answer]
  | ok isDirectory =>
      rw [answer] at sameAnswer
      cases isDirectory with
      | false => rw [scan_of_no_directory _ root _ sameAnswer, scan_of_no_directory _ root _ answer]
      | true =>
          obtain ⟨location, paths, leads, -, scanned, sorted, members⟩ := scan_of_directory
            workspace wellFormed root included excluded listDirectories answer
          obtain ⟨other, otherPaths, otherLeads, -, otherScanned, otherSorted, otherMembers⟩ :=
            scan_of_directory (workspace.withFiles others) othersWellFormed root included excluded
              listDirectories sameAnswer
          rw [arrive_same workspace others sameOutline, leads] at otherLeads
          simp only [Except.ok.injEq, Arrival.existing.injEq] at otherLeads
          subst otherLeads
          rw [scanned, otherScanned]
          refine congrArg Except.ok (List.Pairwise.eq_of_mem_iff otherSorted sorted ?_)
          intro path
          rw [members, otherMembers]
          constructor
          · exact Node.listed_same others workspace.files same.symm _ _ _ _ _
          · exact Node.listed_same workspace.files others same _ _ _ _ _

theorem scan_lists (workspace : Workspace) (wellFormed : workspace.files.WellFormed)
    (root : Path) (included excluded : List String) (listDirectories : Bool) :
    let selection :=
      { globs := GlobSet.ofPatterns included excluded, listDirectories : Selection }
    (match workspace.isDirectory root with
      | .error fault => workspace.scan root selection = .error fault
      | .ok false => workspace.scan root selection = .ok []
      | .ok true =>
          ∃ location paths, workspace.arrive true root = .ok (.existing location) ∧
            workspace.files.entryAt? location = some .directory ∧
            workspace.scan root selection = .ok paths ∧ paths.Pairwise (· < ·) ∧
            ∀ path, path ∈ paths ↔
              workspace.files.Listed location included excluded listDirectories path) ∧
      ∀ others : Node, others.WellFormed → others.entryAt? = workspace.files.entryAt? →
        (workspace.withFiles others).scan root selection = workspace.scan root selection := by
  intro selection
  refine ⟨?_, ?_⟩
  · split
    next fault failed => exact scan_of_fault workspace root selection fault failed
    next noDirectory => exact scan_of_no_directory workspace root selection noDirectory
    next isDirectory =>
      exact scan_of_directory workspace wellFormed root included excluded listDirectories
        isDirectory
  · intro others othersWellFormed same
    exact scan_same workspace others wellFormed othersWellFormed same root included excluded
      listDirectories

/-- A directory with a source file in it, a hidden file and a link to the directory. -/
def linkedWorkspace : Workspace :=
  { files := .directory
      [("src", .directory [("main.ts", .file [])]), (".env", .file []), ("lib", .link "src")]
    workingDirectory := []
    home := "/"
    accounts := [] }

theorem linked_workspace_lists :
    linkedWorkspace.files.WellFormed ∧
      ∃ location paths,
        linkedWorkspace.arrive true (Path.ofLocation []) = .ok (.existing location) ∧
        linkedWorkspace.files.entryAt? location = some .directory ∧
        linkedWorkspace.scan (Path.ofLocation [])
          { globs := GlobSet.ofPatterns ["**/*"] ["dist/**"], listDirectories := true } =
            .ok paths ∧
        paths.Pairwise (· < ·) ∧
        ∀ path, path ∈ paths ↔
          linkedWorkspace.files.Listed location ["**/*"] ["dist/**"] true path := by
  have inner : (Node.directory [("main.ts", .file [])]).WellFormed :=
    Node.directory_well_formed _ (by decide) (by simp [IsComponent])
      (by simpa using Node.leaf_well_formed _ rfl)
  have wellFormed : linkedWorkspace.files.WellFormed := by
    apply Node.directory_well_formed _ (by decide) (by simp [IsComponent])
    simp only [List.forall_mem_cons]
    exact ⟨inner, Node.leaf_well_formed _ rfl, Node.leaf_well_formed _ rfl, by simp⟩
  have leads : linkedWorkspace.arrive true (Path.ofLocation []) = .ok (.existing []) := by
    refine (arrive_ok_iff _ _ _ _).mpr ⟨⟨"/", by decide⟩, ?_⟩
    rw [walk]
    rfl
  have isDirectory : linkedWorkspace.isDirectory (Path.ofLocation []) = .ok true := by
    rw [is_directory_eq, leads]
    rfl
  have lists :=
    (scan_lists linkedWorkspace wellFormed (Path.ofLocation []) ["**/*"] ["dist/**"] true).1
  rw [isDirectory] at lists
  exact ⟨wellFormed, lists⟩

end Workspace

end ReadmePress
