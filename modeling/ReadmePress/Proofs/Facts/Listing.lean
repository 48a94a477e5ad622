import Mathlib.Data.List.Flatten
import ReadmePress.Proofs.Facts.SettingsValues
import ReadmePress.Proofs.Facts.Truncation
import ReadmePress.Proofs.Sources
import ReadmePress.Proofs.Text.Lines

/-!
What the listing of a directory shows. A scan that lists directories lists every directory above
a path, so a listing down to a depth shows the scanned paths that are not deeper, and each of its
lines stands for an entry that is there. This holds as long as no name that is shown has a
backslash in it: a listing takes a backslash for a slash and shows directories that do not exist.
Greater depths only add lines.
-/

namespace ReadmePress

open ReadmePress.Text

/-- The pattern of everything reaches the paths whose directories have no line feed in their
names. -/
theorem everything_matches_iff (names : Location) (someName : names ≠ [])
    (components : ∀ name ∈ names, IsComponent name) :
    (Glob.ofString "**/*").matchesPath (relativePath names) = true ↔
      ∀ directory ∈ names.dropLast, '\n' ∉ directory.toList := by
  have reads : Glob.ofString "**/*" = Glob.withEnding "" := by decide
  obtain ⟨directories, name, rfl⟩ := (List.eq_nil_or_concat names).resolve_left someName
  rw [List.concat_eq_append] at components ⊢
  rw [reads, Glob.with_ending_matches "" (by decide) directories name (components name (by simp)),
    List.dropLast_concat]
  simp

namespace Node

/-- What stands above an entry is a directory. -/
theorem directory_on_way (files : Node) (location : Location) (count : Nat) (entry : Entry)
    (found : files.entryAt? location = some entry) (bound : count < location.length) :
    files.entryAt? (location.take count) = some .directory := by
  rw [← List.take_append_drop count location, List.drop_eq_getElem_cons bound] at found
  cases reached : files.node? (location.take count) with
  | none =>
      have absent := (entry_at_eq_none_iff _ _).mpr reached
      rw [bare_of_absent files _ absent] at found
      cases found
  | some node =>
      rw [entry_at_append files node _ _ reached] at found
      cases node with
      | file content => simp [entryAt?, node?] at found
      | link target => simp [entryAt?, node?] at found
      | directory entries => exact (entry_at_eq_directory_iff _ _).mpr ⟨entries, reached⟩

section Listed

variable (files : Node) (root : Location) (excluded : List String) (path : String)
  (wellFormed : files.WellFormed) (listed : files.Listed root ["**/*"] excluded true path)

include wellFormed listed

theorem listed_components : ∀ name ∈ pathNames path, IsComponent name := by
  have found : files.entryAt? (root ++ pathNames path) ≠ none := by
    rcases listed.entry with ⟨content, isFile⟩ | ⟨-, isDirectory⟩
    · simp [isFile]
    · simp [isDirectory]
  intro name member
  exact components_of_found files _ wellFormed found name (List.mem_append_right root member)

/-- Every directory above a listed path is listed. -/
theorem listed_above (count : Nat) (positive : 0 < count) :
    files.Listed root ["**/*"] excluded true (pathStart path count) := by
  by_cases whole : pathDepth path ≤ count
  · rw [path_start_whole path count whole]
    exact listed
  have bound : count < (pathNames path).length := Nat.lt_of_not_le whole
  have components := listed_components files root excluded path wellFormed listed
  have named : "" ∉ pathNames path := fun member => (components "" member).1 rfl
  have names := path_start_names path count positive named
  have length : ((pathNames path).take count).length = count := by
    rw [List.length_take]
    omega
  obtain ⟨visible, unlinked, entered, ⟨pattern, isPattern, matched⟩, -, entry⟩ := listed
  refine ⟨?_, ?_, ?_, ?_, ?_, ?_⟩
  · intro name member
    rw [names] at member
    exact visible name (List.mem_of_mem_take member)
  · intro shorter shorterBound shorterPositive
    rw [names] at shorterBound ⊢
    rw [List.take_take, Nat.min_eq_left (by omega)]
    exact unlinked shorter (by omega) shorterPositive
  · intro shorter shorterBound shorterPositive
    rw [names] at shorterBound ⊢
    rw [List.take_take, Nat.min_eq_left (by omega)]
    exact entered shorter (by omega) shorterPositive
  · refine ⟨pattern, isPattern, ?_⟩
    rw [List.mem_singleton.mp isPattern] at matched ⊢
    rw [← relative_path_names path,
      everything_matches_iff _ (path_names_ne_nil path) components] at matched
    rw [pathStart, everything_matches_iff]
    · intro directory member
      apply matched directory
      rw [List.dropLast_eq_take, length, List.take_take] at member
      rw [List.dropLast_eq_take]
      exact List.take_subset_take_left _ (by omega) member
    · exact List.ne_nil_of_length_pos (by omega)
    · exact fun name member => components name (List.mem_of_mem_take member)
  · exact entered count bound positive
  · rw [names]
    obtain ⟨there, found⟩ : ∃ there, files.entryAt? (root ++ pathNames path) = some there := by
      rcases entry with ⟨content, isFile⟩ | ⟨-, isDirectory⟩
      · exact ⟨_, isFile⟩
      · exact ⟨_, isDirectory⟩
    refine Or.inr ⟨rfl, ?_⟩
    rw [← List.take_length_add_append]
    exact directory_on_way files _ _ there found (by simp [bound])

end Listed

/-- What holds of the names of a directory's entries and of all names below them holds of all
names below the directory. -/
theorem names_below_directory (holds : String → Prop) (entries : List (String × Node))
    (here : ∀ entry ∈ entries, holds entry.1 ∧
      ∀ below, entry.2.entryAt? below ≠ none → ∀ name ∈ below, holds name) (below : Location)
    (found : (Node.directory entries).entryAt? below ≠ none) : ∀ name ∈ below, holds name := by
  cases below with
  | nil => simp
  | cons first rest =>
      rw [entry_at_below] at found
      cases present : OrderedMap.find? entries first with
      | none => simp [present] at found
      | some child =>
          rw [present, Option.bind_some] at found
          obtain ⟨firstHolds, others⟩ := here _ (OrderedMap.mem_of_find entries first child present)
          exact List.forall_mem_cons.mpr ⟨firstHolds, others rest found⟩

theorem names_below_file (holds : String → Prop) (content : List UInt8) (below : Location)
    (found : (Node.file content).entryAt? below ≠ none) : ∀ name ∈ below, holds name := by
  cases below with
  | nil => simp
  | cons first rest => exact absurd (file_is_bare content first rest) found

end Node

namespace Listing

/-- Which paths a listing is made from. -/
def selection (exclusions : List String) : Selection :=
  { globs := GlobSet.ofPatterns ["**/*"] (Listing.exclusions ++ exclusions)
    listDirectories := true }

/-- The lines of paths, one path after the other. -/
def pathsLines (paths : List String) : List (List Char) :=
  paths.flatMap fun path => pathLines path.toList

theorem render_eq (paths : List String) :
    (render paths).toList = ['\n'].intercalate (pathsLines paths) := by
  rw [render, String.toList_ofList, join_eq_intercalate, pathsLines]

theorem line_of_component (place : Nat) (components : List (List Char)) (text : List Char)
    (member : text ∈ linesFrom place components) :
    ∃ above name below, components = above ++ name :: below ∧
      text = line (place + above.length) name := by
  induction components generalizing place with
  | nil => exact absurd member List.not_mem_nil
  | cons first rest induction =>
      rcases List.mem_cons.mp member with rfl | isLater
      · exact ⟨[], first, rest, rfl, rfl⟩
      · obtain ⟨above, name, below, rfl, rfl⟩ := induction (place + 1) isLater
        refine ⟨first :: above, name, below, rfl, ?_⟩
        rw [List.length_cons, Nat.add_right_comm, Nat.add_assoc]

theorem line_of_field (place : Nat) (components : List (List Char)) (name : List Char)
    (member : name ∈ components) : ∃ below, line below name ∈ linesFrom place components := by
  induction components generalizing place with
  | nil => exact absurd member List.not_mem_nil
  | cons first rest induction =>
      rcases List.mem_cons.mp member with rfl | isLater
      · exact ⟨place, List.mem_cons_self⟩
      · obtain ⟨below, isLine⟩ := induction (place + 1) isLater
        exact ⟨below, List.mem_cons_of_mem _ isLine⟩

/-- Every line of a path is that of one of its names, below the names above it. -/
theorem line_of_path (path : String) (text : List Char) (member : text ∈ pathLines path.toList) :
    ∃ above name, text = line above.length name.toList ∧
      above ++ [name] = (pathNames path).take (above.length + 1) := by
  obtain ⟨above, name, below, components, rfl⟩ := line_of_component 0 _ text member
  have names : pathNames path =
      above.map String.ofList ++ String.ofList name :: below.map String.ofList := by
    rw [pathNames, ← split_eq_split_on, components, List.map_append, List.map_cons]
  refine ⟨above.map String.ofList, String.ofList name, ?_, ?_⟩
  · rw [List.length_map, Nat.zero_add, String.toList_ofList]
  · rw [names, List.take_length_add_append]
    rfl

theorem mem_line_iff (place : Nat) (name : List Char) (character : Char)
    (foreign : character ∉ ' ' :: connector) : character ∈ line place name ↔ character ∈ name := by
  obtain ⟨notSpace, notConnector⟩ := not_or.mp (List.mem_cons.not.mp foreign)
  rw [line]
  split
  · exact Iff.rfl
  · simp [notSpace, notConnector]

/-- What is in a line and belongs to no indentation is in a path. -/
theorem mem_of_paths_lines (paths : List String) (text : List Char) (character : Char)
    (foreign : character ∉ ' ' :: connector) (isLine : text ∈ pathsLines paths)
    (member : character ∈ text) : ∃ path ∈ paths, character ∈ path.toList := by
  obtain ⟨path, isPath, isLine⟩ := List.mem_flatMap.mp isLine
  obtain ⟨above, name, below, components, rfl⟩ := line_of_component 0 _ text isLine
  have isField : name ∈ path.toList.splitOn '/' := by
    rw [← split_eq_split_on, components]
    simp
  have inName := (mem_line_iff _ name character foreign).mp member
  exact ⟨path, isPath, (field_occurs '/' _ name isField).subset inName⟩

/-- A listing has a backslash exactly where one of its paths has one. -/
theorem backslash_in_render_iff (paths : List String) :
    '\\' ∈ (render paths).toList ↔ ∃ path ∈ paths, '\\' ∈ path.toList := by
  rw [render_eq]
  constructor
  · intro member
    rcases mem_of_intercalate _ _ _ member with isLineFeed | ⟨text, isLine, member⟩
    · exact absurd isLineFeed (by decide)
    exact mem_of_paths_lines paths text '\\' (by decide) isLine member
  · rintro ⟨path, isPath, member⟩
    have joined : ['/'].intercalate (split '/' path.toList) = path.toList := by
      rw [split_eq_split_on, List.intercalate_splitOn]
    rw [← joined] at member
    rcases mem_of_intercalate _ _ _ member with isSlash | ⟨name, isField, member⟩
    · exact absurd isSlash (by decide)
    obtain ⟨place, isLine⟩ := line_of_field 0 _ name isField
    have inLines : line place name ∈ pathsLines paths :=
      List.mem_flatMap.mpr ⟨path, isPath, isLine⟩
    have isIn := (mem_line_iff place name '\\' (by decide)).mpr member
    exact (infix_of_intercalate _ _ _ inLines).subset isIn

theorem path_lines_some (path : List Char) : pathLines path ≠ [] := by
  rw [pathLines]
  cases components : split '/' path with
  | nil => exact absurd components (split_ne_nil '/' path)
  | cons first rest => exact List.cons_ne_nil _ _

theorem paths_lines_some (paths : List String) (somePath : paths ≠ []) : pathsLines paths ≠ [] := by
  obtain ⟨first, rest, rfl⟩ := List.exists_cons_of_ne_nil somePath
  exact List.append_ne_nil_of_left_ne_nil (path_lines_some first.toList) _

/-- Of closed paths a greater depth only adds lines. -/
theorem render_deeper (paths : List String) (closed : IsClosed paths)
    (plain : ∀ path ∈ paths, '\\' ∉ path.toList) (shallow deep : Int) (positive : 0 < shallow)
    (deeper : shallow ≤ deep) :
    LinesWithin (render (truncate paths shallow)).toList
      (render (truncate paths deep)).toList := by
  by_cases nothing : truncate paths shallow = []
  · rw [nothing, truncate_some paths closed plain shallow positive nothing]
    exact ⟨List.Sublist.refl _, List.Sublist.refl _⟩
  · have fewer := truncate_deeper paths closed plain shallow deep positive deeper
    rw [render_eq, render_eq]
    exact lines_within_pieces _ _ (fewer.flatMap _) (paths_lines_some _ nothing)

end Listing

namespace Workspace

theorem list_directory_eq (workspace : Workspace) (root : Path) (depth : Int)
    (exclusions : List String) (valid : isValidDepth depth = true) :
    workspace.listDirectory root depth exclusions =
      match workspace.scan root (Listing.selection exclusions) with
      | .error fault => .error (.file fault)
      | .ok paths => .ok (Listing.render (Listing.truncate paths depth)) := by
  rw [listDirectory, valid]
  rfl

/-- A scan for a listing finds nothing, or the listed paths below the place of its root. -/
theorem scanned_listed (workspace : Workspace) (wellFormed : workspace.files.WellFormed)
    (root : Path) (exclusions paths : List String)
    (scanned : workspace.scan root (Listing.selection exclusions) = .ok paths) :
    paths = [] ∨ ∃ location, workspace.arrive true root = .ok (.existing location) ∧
      paths.Pairwise (· < ·) ∧
      ∀ path, path ∈ paths ↔ workspace.files.Listed location ["**/*"]
        (Listing.exclusions ++ exclusions) true path := by
  cases answer : workspace.isDirectory root with
  | error fault =>
      rw [scan_of_fault _ _ _ fault answer] at scanned
      cases scanned
  | ok isDirectory =>
      cases isDirectory with
      | false =>
          rw [scan_of_no_directory _ _ _ answer, Except.ok.injEq] at scanned
          exact Or.inl scanned.symm
      | true =>
          obtain ⟨location, found, leads, -, isScanned, sorted, members⟩ := scan_of_directory
            workspace wellFormed root ["**/*"] (Listing.exclusions ++ exclusions) true answer
          obtain rfl : found = paths := Except.ok.inj (isScanned.symm.trans scanned)
          exact Or.inr ⟨location, leads, sorted, members⟩

theorem scanned_sorted (workspace : Workspace) (wellFormed : workspace.files.WellFormed)
    (root : Path) (exclusions paths : List String)
    (scanned : workspace.scan root (Listing.selection exclusions) = .ok paths) :
    paths.Pairwise (· < ·) := by
  rcases workspace.scanned_listed wellFormed root exclusions paths scanned with
    rfl | ⟨-, -, sorted, -⟩
  · exact .nil
  · exact sorted

/-- The paths that a listing is made from are closed. -/
theorem scanned_closed (workspace : Workspace) (wellFormed : workspace.files.WellFormed)
    (root : Path) (exclusions paths : List String)
    (scanned : workspace.scan root (Listing.selection exclusions) = .ok paths) :
    Listing.IsClosed paths := by
  rcases workspace.scanned_listed wellFormed root exclusions paths scanned with
    rfl | ⟨location, -, -, members⟩
  · exact ⟨by simp, by simp⟩
  constructor
  · intro path member isEmpty
    have listed := (members path).mp member
    exact (Node.listed_components _ _ _ _ wellFormed listed "" isEmpty).1 rfl
  · intro path member count positive
    have listed := (members path).mp member
    exact (members _).mpr (Node.listed_above _ _ _ _ wellFormed listed count positive)

/-- Each scanned path names an entry below the place of the root. -/
theorem scanned_found (workspace : Workspace) (wellFormed : workspace.files.WellFormed)
    (root : Path) (exclusions paths : List String)
    (scanned : workspace.scan root (Listing.selection exclusions) = .ok paths) (path : String)
    (member : path ∈ paths) :
    ∃ location, workspace.arrive true root = .ok (.existing location) ∧
      workspace.files.entryAt? (location ++ pathNames path) ≠ none := by
  rcases workspace.scanned_listed wellFormed root exclusions paths scanned with
    rfl | ⟨location, leads, -, members⟩
  · exact absurd member List.not_mem_nil
  refine ⟨location, leads, ?_⟩
  rcases ((members path).mp member).entry with ⟨content, isFile⟩ | ⟨-, isDirectory⟩
  · simp [isFile]
  · simp [isDirectory]

/-- The paths that a listing has room for. -/
def shownPaths (scanned : List String) (depth : Int) : List String :=
  scanned.filter fun path => pathDepth path ≤ depth.toNat

theorem mem_shown_paths (scanned : List String) (depth : Int) (path : String) :
    path ∈ shownPaths scanned depth ↔ path ∈ scanned ∧ pathDepth path ≤ depth.toNat := by
  rw [shownPaths, List.mem_filter, decide_eq_true_eq]

/-- A line of paths that are not too deep is that of a path among them. -/
theorem shown_line (scanned : List String) (closed : Listing.IsClosed scanned) (depth : Int)
    (text : List Char) (member : text ∈ Listing.pathsLines (shownPaths scanned depth)) :
    ∃ above name, text = Listing.line above.length name.toList ∧
      relativePath (above ++ [name]) ∈ shownPaths scanned depth ∧
      pathNames (relativePath (above ++ [name])) = above ++ [name] := by
  obtain ⟨path, isShown, isLine⟩ := List.mem_flatMap.mp member
  obtain ⟨above, name, isText, start⟩ := Listing.line_of_path path text isLine
  obtain ⟨isScanned, bound⟩ := (mem_shown_paths _ _ _).mp isShown
  have positive : 0 < above.length + 1 := Nat.succ_pos _
  have named := closed.named path isScanned
  have whole : relativePath (above ++ [name]) = pathStart path (above.length + 1) := by
    rw [start, pathStart]
  have names := path_start_names path _ positive named
  refine ⟨above, name, isText, ?_, ?_⟩
  · rw [whole]
    apply (mem_shown_paths _ _ _).mpr ⟨closed.above path isScanned _ positive, ?_⟩
    rw [pathDepth, names, List.length_take]
    exact (Nat.min_le_right _ _).trans bound
  · rw [whole, names, start]

/-- A listing shows the scanned paths that are not too deep, each once and in order, exactly when
none of them has a backslash in it; and every line of these paths stands for an entry that is
there. -/
theorem listing_shows_entries (workspace : Workspace) (wellFormed : workspace.files.WellFormed)
    (root : Path) (depth : Int) (exclusions : List String) (valid : isValidDepth depth = true) :
    match workspace.scan root (Listing.selection exclusions) with
    | .error fault => workspace.listDirectory root depth exclusions = .error (.file fault)
    | .ok scanned =>
        (workspace.listDirectory root depth exclusions =
            .ok (Listing.render (shownPaths scanned depth)) ↔
          ∀ path ∈ shownPaths scanned depth, '\\' ∉ path.toList) ∧
        (shownPaths scanned depth).Pairwise (· < ·) ∧
        ∀ text ∈ Listing.pathsLines (shownPaths scanned depth), ∃ location above name,
          workspace.arrive true root = .ok (.existing location) ∧
            text = Listing.line above.length name.toList ∧
            relativePath (above ++ [name]) ∈ shownPaths scanned depth ∧
            workspace.files.entryAt? (location ++ (above ++ [name])) ≠ none := by
  have positive : 0 < depth := ((Settings.valid_depth_iff depth).mp valid).1
  rw [list_directory_eq workspace root depth exclusions valid]
  cases scanned : workspace.scan root (Listing.selection exclusions) with
  | error fault => rfl
  | ok paths =>
      have closed := workspace.scanned_closed wellFormed root exclusions paths scanned
      have sorted := workspace.scanned_sorted wellFormed root exclusions paths scanned
      refine ⟨?_, sorted.filter _, ?_⟩
      · rw [Except.ok.injEq]
        constructor
        · intro same path member isIn
          have inListing := (Listing.backslash_in_render_iff _).mpr ⟨path, member, isIn⟩
          rw [← same] at inListing
          obtain ⟨cut, isCut, isIn⟩ := (Listing.backslash_in_render_iff _).mp inListing
          exact Listing.truncated_plain paths depth cut isCut isIn
        · intro plain
          apply congrArg Listing.render
          apply (Listing.truncate_eq_filter_iff paths closed sorted depth positive).mpr
          exact fun path member bound => plain path ((mem_shown_paths _ _ _).mpr ⟨member, bound⟩)
      · intro text member
        obtain ⟨above, name, isText, isShown, names⟩ :=
          shown_line paths closed depth text member
        obtain ⟨location, leads, found⟩ := workspace.scanned_found wellFormed root exclusions
          paths scanned _ ((mem_shown_paths _ _ _).mp isShown).1
        rw [names] at found
        exact ⟨location, above, name, leads, isText, isShown, found⟩

theorem two_sources_listing :
    twoSources.files.WellFormed ∧ isValidDepth 1 = true ∧
      twoSources.scan (Path.ofLocation []) (Listing.selection []) =
        .ok ["a\nb", "src", "src/main.ts"] ∧
      twoSources.listDirectory (Path.ofLocation []) 1 [] =
        .ok (Listing.render ["a\nb", "src"]) := by
  have valid : isValidDepth 1 = true := by decide
  have scanned : twoSources.scan (Path.ofLocation []) (Listing.selection []) =
      .ok ["a\nb", "src", "src/main.ts"] := by
    decide +kernel
  have room : shownPaths ["a\nb", "src", "src/main.ts"] 1 = ["a\nb", "src"] := by
    decide +kernel
  have shows := listing_shows_entries twoSources two_sources_well_formed (Path.ofLocation []) 1 []
    valid
  rw [scanned] at shows
  have listed := shows.1.mpr (by rw [room]; decide)
  rw [room] at listed
  exact ⟨two_sources_well_formed, valid, scanned, listed⟩

/-- A file whose name has a backslash in it. -/
def backslashName : Workspace :=
  { files := .directory [("a\\b", .file [])]
    workingDirectory := []
    home := "/"
    accounts := [] }

/-- A file with a backslash in its name is shown as a file in a directory that does not exist. -/
theorem backslash_shows_directory :
    backslashName.files.WellFormed ∧
      backslashName.scan (Path.ofLocation []) (Listing.selection []) = .ok ["a\\b"] ∧
      shownPaths ["a\\b"] 2 = ["a\\b"] ∧ backslashName.files.entryAt? ["a"] = none ∧
      backslashName.listDirectory (Path.ofLocation []) 2 [] =
        .ok (Listing.render ["a/b"]) ∧
      backslashName.listDirectory (Path.ofLocation []) 2 [] ≠
        .ok (Listing.render (shownPaths ["a\\b"] 2)) := by
  have wellFormed : backslashName.files.WellFormed :=
    Node.directory_well_formed _ (by decide) (by simp [IsComponent])
      (by simpa using Node.leaf_well_formed _ rfl)
  have listed : backslashName.listDirectory (Path.ofLocation []) 2 [] =
      .ok (Listing.render ["a/b"]) := by
    decide +kernel
  refine ⟨wellFormed, by decide +kernel, by decide +kernel, by decide, listed, ?_⟩
  rw [listed]
  decide +kernel

/-- A greater depth only adds lines to a listing, as long as no name below the root has a
backslash in it; and so it is for every list of closed paths without backslashes. -/
theorem depth_only_adds_lines (workspace : Workspace) (wellFormed : workspace.files.WellFormed)
    (root : Path) (exclusions : List String) (shallow deep : Int) (least : 1 ≤ shallow)
    (deeper : shallow ≤ deep) (greatest : deep ≤ 5)
    (plain : ∀ location, workspace.arrive true root = .ok (.existing location) →
      ∀ below, workspace.files.entryAt? (location ++ below) ≠ none →
        ∀ name ∈ below, '\\' ∉ name.toList) :
    (match workspace.listDirectory root shallow exclusions,
        workspace.listDirectory root deep exclusions with
      | .ok short, .ok long => LinesWithin short.toList long.toList
      | .error fault, .error other => fault = other
      | _, _ => False) ∧
    ∀ (paths : List String) (shallow deep : Int), Listing.IsClosed paths →
      (∀ path ∈ paths, '\\' ∉ path.toList) → 1 ≤ shallow → shallow ≤ deep →
      LinesWithin (Listing.render (Listing.truncate paths shallow)).toList
        (Listing.render (Listing.truncate paths deep)).toList := by
  have general (paths : List String) (shallow deep : Int) (closed : Listing.IsClosed paths)
      (plain : ∀ path ∈ paths, '\\' ∉ path.toList) (least : 1 ≤ shallow)
      (deeper : shallow ≤ deep) :=
    Listing.render_deeper paths closed plain shallow deep least deeper
  refine ⟨?_, general⟩
  have validShallow := (Settings.valid_depth_iff shallow).mpr ⟨least, by omega⟩
  have validDeep := (Settings.valid_depth_iff deep).mpr ⟨by omega, greatest⟩
  rw [list_directory_eq workspace root shallow exclusions validShallow,
    list_directory_eq workspace root deep exclusions validDeep]
  cases scanned : workspace.scan root (Listing.selection exclusions) with
  | error fault => rfl
  | ok paths =>
      apply general paths shallow deep _ _ least deeper
      · exact workspace.scanned_closed wellFormed root exclusions paths scanned
      · intro path member isIn
        obtain ⟨location, leads, found⟩ :=
          workspace.scanned_found wellFormed root exclusions paths scanned path member
        have names := plain location leads (pathNames path) found
        rw [← relative_path_names path, relativePath, String.toList_intercalate] at isIn
        rcases mem_of_intercalate _ _ _ isIn with isSlash | ⟨field, isField, isIn⟩
        · exact absurd isSlash (by decide)
        · obtain ⟨name, isName, rfl⟩ := List.mem_map.mp isField
          exact names name isName isIn

theorem two_sources_plain (below : Location)
    (found : twoSources.files.entryAt? below ≠ none) : ∀ name ∈ below, '\\' ∉ name.toList := by
  have inner : ∀ name ∈ ["x.js", "main.ts"], ∀ below : Location,
      (Node.directory [(name, .file [])]).entryAt? below ≠ none →
        ∀ name ∈ below, '\\' ∉ name.toList := by
    intro name member
    have plain : ∀ name ∈ ["x.js", "main.ts"], '\\' ∉ name.toList := by decide
    apply Node.names_below_directory
    simpa using ⟨plain name member, Node.names_below_file _ []⟩
  refine Node.names_below_directory (fun name => '\\' ∉ name.toList) _ ?_ below found
  simp only [List.forall_mem_cons]
  exact ⟨⟨by decide, inner _ (by decide)⟩, ⟨by decide, inner _ (by decide)⟩, by simp⟩

/-- Paths of which one stands, in order, between a directory and what is in it. -/
theorem interleaved_paths_closed : Listing.IsClosed ["a", "a-b", "a/b"] := by
  refine ⟨by decide, ?_⟩
  intro path member count positive
  rcases Nat.lt_or_ge count 2 with one | more
  · obtain rfl : count = 1 := by omega
    revert path
    decide
  · have shallow : ∀ path ∈ ["a", "a-b", "a/b"], pathDepth path ≤ 2 := by decide
    rw [path_start_whole path count ((shallow path member).trans more)]
    exact member

theorem two_sources_deeper :
    twoSources.files.WellFormed ∧
      (∀ location, twoSources.arrive true (Path.ofLocation []) = .ok (.existing location) →
        ∀ below, twoSources.files.entryAt? (location ++ below) ≠ none →
          ∀ name ∈ below, '\\' ∉ name.toList) ∧
      (∃ short long, twoSources.listDirectory (Path.ofLocation []) 1 [] = .ok short ∧
        twoSources.listDirectory (Path.ofLocation []) 2 [] = .ok long ∧
        LinesWithin short.toList long.toList) ∧
      Listing.IsClosed ["a", "a-b", "a/b"] ∧
      LinesWithin (Listing.render (Listing.truncate ["a", "a-b", "a/b"] 1)).toList
        (Listing.render (Listing.truncate ["a", "a-b", "a/b"] 2)).toList := by
  have root : twoSources.arrive true (Path.ofLocation []) = .ok (.existing []) := by
    decide +kernel
  have plain : ∀ location, twoSources.arrive true (Path.ofLocation []) =
      .ok (.existing location) → ∀ below, twoSources.files.entryAt? (location ++ below) ≠ none →
        ∀ name ∈ below, '\\' ∉ name.toList := by
    intro location leads below found
    obtain rfl : [] = location := Arrival.existing.inj (Except.ok.inj (root.symm.trans leads))
    exact two_sources_plain below found
  obtain ⟨adds, general⟩ := depth_only_adds_lines twoSources two_sources_well_formed
    (Path.ofLocation []) [] 1 2 (by decide) (by decide) (by decide) plain
  have short : twoSources.listDirectory (Path.ofLocation []) 1 [] = .ok "a\nb\nsrc" := by
    decide +kernel
  have long : twoSources.listDirectory (Path.ofLocation []) 2 [] =
      .ok "a\nb\nsrc\nsrc\n  └─ main.ts" := by
    decide +kernel
  rw [short, long] at adds
  exact ⟨two_sources_well_formed, plain, ⟨_, _, short, long, adds⟩, interleaved_paths_closed,
    general _ 1 2 interleaved_paths_closed (by decide) (by decide) (by decide)⟩

end Workspace

end ReadmePress
