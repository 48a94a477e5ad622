import ReadmePress.Proofs.Scan

/-!
Which files are listed as sources. The patterns of sources look at the ending of a file's name
and at the names of the directories above it. Since two stars do not cross a line feed, they
reach a file only if no directory above it has a line feed in its name; of the files that they
reach none is left out.
-/

namespace ReadmePress

/-- A text that is empty or ends in a slash. -/
def EndsAtSlash (text : List Char) : Prop := text = [] ∨ ∃ start, text = start ++ ['/']

theorem rest_of_ends_at_slash (front rest : List Char) (ends : EndsAtSlash (front ++ rest))
    (noSlash : '/' ∉ rest) : rest = [] := by
  rcases List.eq_nil_or_concat rest with rfl | ⟨start, last, rfl⟩
  · rfl
  · rw [List.concat_eq_append, ← List.append_assoc] at ends
    rcases ends with empty | ⟨text, same⟩
    · simp at empty
    · have isSlash := (List.append_inj' same rfl).2
      simp [List.concat_eq_append, isSlash] at noSlash

/-- A text is cut in one way into a part that ends at a slash and a name without one. -/
theorem cut_before_name (front other back name : List Char) (ends : EndsAtSlash front)
    (otherEnds : EndsAtSlash other) (noSlash : '/' ∉ back) (otherNoSlash : '/' ∉ name)
    (same : front ++ back = other ++ name) : front = other ∧ back = name := by
  rcases List.append_eq_append_iff.mp same with ⟨rest, rfl, rfl⟩ | ⟨rest, rfl, rfl⟩
  · have empty := rest_of_ends_at_slash front rest otherEnds fun member =>
      noSlash (List.mem_append_left name member)
    simp [empty]
  · have empty := rest_of_ends_at_slash other rest ends fun member =>
      otherNoSlash (List.mem_append_left back member)
    simp [empty]

theorem name_before_slash (name rest : List Char) (noSlash : '/' ∉ name)
    (ends : rest = [] ∨ ∃ more, rest = '/' :: more) :
    (name ++ rest).takeWhile (· != '/') = name := by
  have inName : ∀ character ∈ name, (character != '/') = true := by
    intro character member
    rw [bne_iff_ne]
    rintro rfl
    exact noSlash member
  have stops : rest.takeWhile (· != '/') = [] := by
    rcases ends with rfl | ⟨more, rfl⟩
    · rfl
    · simp
  rw [List.takeWhile_append_of_pos inName, stops, List.append_nil]

/-- The text of directories, each ended by a slash. -/
def directoryText (directories : Location) : List Char :=
  directories.flatMap fun directory => directory.toList ++ ['/']

theorem directory_text_ends (directories : Location) : EndsAtSlash (directoryText directories) := by
  rcases List.eq_nil_or_concat directories with rfl | ⟨start, last, rfl⟩
  · exact Or.inl rfl
  · refine Or.inr ⟨directoryText start ++ last.toList, ?_⟩
    simp [directoryText]

theorem relative_path_text (directories : Location) (name : String) :
    (relativePath (directories ++ [name])).toList = directoryText directories ++ name.toList := by
  have slash : "/".toList = ['/'] := rfl
  rw [relativePath, String.toList_intercalate, slash]
  induction directories with
  | nil => simp [directoryText]
  | cons first rest induction =>
      obtain ⟨next, more, isCons⟩ := List.exists_cons_of_ne_nil
        (List.append_ne_nil_of_right_ne_nil rest (List.cons_ne_nil name []))
      rw [List.cons_append, isCons, List.map_cons, List.map_cons, List.intercalate_cons_cons,
        ← List.map_cons, ← isCons, induction]
      simp [directoryText]

theorem first_name_text (first : String) (rest : Location) :
    ∃ tail, (relativePath (first :: rest)).toList = first.toList ++ tail ∧
      (tail = [] ∨ ∃ more, tail = '/' :: more) := by
  have slash : "/".toList = ['/'] := rfl
  rw [relativePath, String.toList_intercalate, slash]
  cases rest with
  | nil => exact ⟨[], by simp, Or.inl rfl⟩
  | cons next more =>
      rw [List.map_cons, List.map_cons, List.intercalate_cons_cons, List.append_assoc]
      exact ⟨_, rfl, Or.inr ⟨_, rfl⟩⟩

theorem line_feed_in_directories (directories : Location) :
    '\n' ∈ directoryText directories ↔ ∃ directory ∈ directories, '\n' ∈ directory.toList := by
  simp [directoryText]

namespace Glob

theorem language_cons (token : GlobToken) (tokens : Glob) :
    language (token :: tokens) = token.language * language tokens := rfl

theorem language_append (first second : Glob) :
    language (first ++ second) = language first * language second := by
  simp [language]

theorem language_single (token : GlobToken) : language [token] = token.language := by
  simp [language]

theorem language_literals (text : List Char) : language (text.map .literal) = {text} := by
  induction text with
  | nil => rfl
  | cons character rest induction =>
      ext path
      rw [List.map_cons, language_cons, induction, Language.mem_mul]
      constructor
      · rintro ⟨_, rfl, _, rfl, rfl⟩
        rfl
      · rintro rfl
        exact ⟨[character], rfl, rest, rfl, rfl⟩

/-- Names of this ending in any directory. -/
def withEnding (ending : String) : Glob :=
  .directories :: .anyName :: ending.toList.map .literal

/-- A directory and all that is in it. -/
def within (directory : String) : Glob := directory.toList.map .literal ++ [.subtree]

theorem mem_directories (text : List Char) :
    text ∈ GlobToken.directories.language ↔ EndsAtSlash text ∧ '\n' ∉ text := by
  rw [GlobToken.language, Language.mem_add, Language.mem_one, Language.mem_mul]
  constructor
  · rintro (rfl | ⟨line, isLine, _, rfl, rfl⟩)
    · exact ⟨Or.inl rfl, List.not_mem_nil⟩
    · have isLine : '\n' ∉ line := isLine
      exact ⟨Or.inr ⟨line, rfl⟩, by simp [isLine]⟩
  · rintro ⟨empty | ⟨line, rfl⟩, noLineFeed⟩
    · exact Or.inl empty
    · exact Or.inr ⟨line, fun member => noLineFeed (List.mem_append_left _ member), ['/'], rfl, rfl⟩

theorem mem_with_ending (ending : String) (path : List Char) :
    path ∈ (withEnding ending).language ↔
      ∃ front base, (EndsAtSlash front ∧ '\n' ∉ front) ∧ '/' ∉ base ∧
        front ++ (base ++ ending.toList) = path := by
  rw [withEnding, language_cons, language_cons, language_literals, Language.mem_mul]
  constructor
  · rintro ⟨front, isFront, rest, isRest, rfl⟩
    obtain ⟨base, isBase, _, rfl, rfl⟩ := Language.mem_mul.mp isRest
    exact ⟨front, base, (mem_directories front).mp isFront, isBase, rfl⟩
  · rintro ⟨front, base, isFront, isBase, rfl⟩
    refine ⟨front, (mem_directories front).mpr isFront, _, ?_, rfl⟩
    exact Language.mem_mul.mpr ⟨base, isBase, ending.toList, rfl, rfl⟩

/-- Two stars reach a name in directories without line feeds. -/
theorem with_ending_matches (ending : String) (noSlash : '/' ∉ ending.toList)
    (directories : Location) (name : String) (isComponent : IsComponent name) :
    (withEnding ending).matchesPath (relativePath (directories ++ [name])) = true ↔
      (∀ directory ∈ directories, '\n' ∉ directory.toList) ∧
        ending.toList <:+ name.toList := by
  have noLineFeed : '\n' ∉ directoryText directories ↔
      ∀ directory ∈ directories, '\n' ∉ directory.toList := by
    rw [line_feed_in_directories]
    push Not
    rfl
  rw [matches_path_iff, relative_path_text, mem_with_ending, ← noLineFeed]
  constructor
  · rintro ⟨front, base, ⟨ends, isLine⟩, noSlashInBase, same⟩
    have noSlashInBack : '/' ∉ base ++ ending.toList := by
      simp [noSlashInBase, noSlash]
    obtain ⟨rfl, whole⟩ := cut_before_name front _ _ _ ends (directory_text_ends directories)
      noSlashInBack isComponent.2 same
    exact ⟨isLine, base, whole⟩
  · rintro ⟨isLine, base, whole⟩
    refine ⟨_, base, ⟨directory_text_ends directories, isLine⟩, ?_, by rw [whole]⟩
    intro member
    apply isComponent.2
    rw [← whole]
    exact List.mem_append_left _ member

theorem mem_within (directory : String) (path : List Char) :
    path ∈ (within directory).language ↔ path = directory.toList ∨
      ∃ rest, '\n' ∉ rest ∧ path = directory.toList ++ '/' :: rest := by
  rw [within, language_append, language_literals, language_single, GlobToken.language,
    Language.mem_mul]
  constructor
  · rintro ⟨_, rfl, rest, isRest, rfl⟩
    rcases (Language.mem_add _ _ _).mp isRest with rfl | isBelow
    · exact Or.inl (List.append_nil _)
    · obtain ⟨_, rfl, line, isLine, rfl⟩ := Language.mem_mul.mp isBelow
      exact Or.inr ⟨line, isLine, rfl⟩
  · rintro (rfl | ⟨rest, isLine, rfl⟩)
    · exact ⟨_, rfl, [], (Language.mem_add _ _ _).mpr (Or.inl rfl), List.append_nil _⟩
    · have isBelow : '/' :: rest ∈ {['/']} * oneLine :=
        Language.mem_mul.mpr ⟨_, rfl, rest, isLine, rfl⟩
      exact ⟨_, rfl, '/' :: rest, (Language.mem_add _ _ _).mpr (Or.inr isBelow), rfl⟩

/-- Only what stands below a directory is within it. -/
theorem first_name_within (directory first : String) (rest : Location)
    (isDirectory : '/' ∉ directory.toList) (isComponent : IsComponent first)
    (matched : (within directory).matchesPath (relativePath (first :: rest)) = true) :
    first = directory := by
  rw [matches_path_iff] at matched
  obtain ⟨tail, isPath, endsFirst⟩ := first_name_text first rest
  obtain ⟨others, isWithin, endsDirectory⟩ : ∃ others,
      (relativePath (first :: rest)).toList = directory.toList ++ others ∧
        (others = [] ∨ ∃ more, others = '/' :: more) := by
    rcases (mem_within directory _).mp matched with same | ⟨more, -, same⟩
    · exact ⟨[], by rw [same, List.append_nil], Or.inl rfl⟩
    · exact ⟨'/' :: more, same, Or.inr ⟨more, rfl⟩⟩
  have known := name_before_slash first.toList tail isComponent.2 endsFirst
  rw [← isPath, isWithin, name_before_slash _ _ isDirectory endsDirectory] at known
  exact String.toList_inj.mp known.symm

theorem within_itself (directory : String) :
    (within directory).matchesPath (relativePath [directory]) = true := by
  rw [matches_path_iff, mem_within]
  exact Or.inl (by simp [relativePath])

end Glob

/-- The endings of the names of sources. -/
def sourceEndings : List String := [".js", ".ts", ".mjs", ".cjs"]

/-- The endings of the names of files made from sources. -/
def derivedEndings : List String := [".d.ts", ".min.js", ".map"]

/-- Directories that hold no sources of a project, below its root. -/
def foreignDirectories : List String := ["node_modules", "dist", ".git"]

theorem source_patterns_read : Workspace.sourcePatterns.map Glob.ofString =
    sourceEndings.map Glob.withEnding := by
  decide

theorem source_exclusions_read : Workspace.sourceExclusions.map Glob.ofString =
    foreignDirectories.map Glob.within ++ derivedEndings.map Glob.withEnding := by
  decide

theorem no_slash_in_endings :
    ∀ ending ∈ sourceEndings ++ derivedEndings, '/' ∉ ending.toList := by
  decide

theorem no_slash_in_foreign : ∀ directory ∈ foreignDirectories, '/' ∉ directory.toList := by
  decide

theorem included_iff (path : String) :
    (∃ pattern ∈ Workspace.sourcePatterns, (Glob.ofString pattern).matchesPath path = true) ↔
      ∃ ending ∈ sourceEndings, (Glob.withEnding ending).matchesPath path = true := by
  have reads (glob : Glob) : glob ∈ Workspace.sourcePatterns.map Glob.ofString ↔
      glob ∈ sourceEndings.map Glob.withEnding := by
    rw [source_patterns_read]
  simp only [List.mem_map] at reads
  constructor
  · rintro ⟨pattern, member, matched⟩
    obtain ⟨ending, isEnding, same⟩ := (reads _).mp ⟨pattern, member, rfl⟩
    exact ⟨ending, isEnding, same ▸ matched⟩
  · rintro ⟨ending, member, matched⟩
    obtain ⟨pattern, isPattern, same⟩ := (reads _).mpr ⟨ending, member, rfl⟩
    exact ⟨pattern, isPattern, same ▸ matched⟩

theorem kept_iff (path : String) :
    (∀ pattern ∈ Workspace.sourceExclusions, (Glob.ofString pattern).matchesPath path = false) ↔
      (∀ directory ∈ foreignDirectories, (Glob.within directory).matchesPath path = false) ∧
      ∀ ending ∈ derivedEndings, (Glob.withEnding ending).matchesPath path = false := by
  rw [← List.forall_mem_map (f := Glob.ofString) (P := fun glob => glob.matchesPath path = false),
    source_exclusions_read, List.forall_mem_append, List.forall_mem_map, List.forall_mem_map]

/-- A place that is neither in a foreign directory nor named like a derived file is entered. -/
theorem kept_of_names (directories : Location) (name : String)
    (components : ∀ known ∈ directories ++ [name], IsComponent known)
    (outside : ∀ directory ∈ foreignDirectories, (directories ++ [name]).head? ≠ some directory)
    (original : ∀ ending ∈ derivedEndings, ¬ ending.toList <:+ name.toList) :
    ∀ pattern ∈ Workspace.sourceExclusions,
      (Glob.ofString pattern).matchesPath (relativePath (directories ++ [name])) = false := by
  rw [kept_iff]
  constructor
  · intro directory isForeign
    rw [← Bool.not_eq_true]
    intro matched
    obtain ⟨first, rest, names⟩ := List.exists_cons_of_ne_nil
      (List.append_ne_nil_of_right_ne_nil directories (List.cons_ne_nil name []))
    rw [names] at components outside matched
    have same := Glob.first_name_within directory first rest
      (no_slash_in_foreign directory isForeign) (components first List.mem_cons_self) matched
    exact outside directory isForeign (by rw [same, List.head?_cons])
  · intro ending isDerived
    rw [← Bool.not_eq_true, Glob.with_ending_matches ending
      (no_slash_in_endings ending (List.mem_append_right _ isDerived)) directories name
      (components name (by simp))]
    exact fun matched => original ending isDerived matched.2

/-- What is entered, in directories without line feeds, is not named like a derived file. -/
theorem original_of_kept (directories : Location) (name : String)
    (isComponent : IsComponent name)
    (reached : ∀ directory ∈ directories, '\n' ∉ directory.toList)
    (kept : ∀ pattern ∈ Workspace.sourceExclusions,
      (Glob.ofString pattern).matchesPath (relativePath (directories ++ [name])) = false) :
    ∀ ending ∈ derivedEndings, ¬ ending.toList <:+ name.toList := by
  intro ending isDerived isEnding
  have notMatched := ((kept_iff _).mp kept).2 ending isDerived
  rw [(Glob.with_ending_matches ending
    (no_slash_in_endings ending (List.mem_append_right _ isDerived)) directories name
    isComponent).mpr ⟨reached, isEnding⟩] at notMatched
  exact absurd notMatched (by decide)

theorem outside_of_kept (name : String)
    (kept : ∀ pattern ∈ Workspace.sourceExclusions,
      (Glob.ofString pattern).matchesPath (relativePath [name]) = false) :
    name ∉ foreignDirectories := by
  intro isForeign
  have notMatched := ((kept_iff _).mp kept).1 name isForeign
  rw [Glob.within_itself] at notMatched
  exact absurd notMatched (by decide)

/-- A file below a directory that its name and its place make a source: nothing hidden or linked
on the way, no foreign directory at the top, and nothing that is made from sources. -/
structure Node.IsSource (files : Node) (root directories : Location) (name : String) : Prop where
  file : ∃ content, files.entryAt? (root ++ (directories ++ [name])) = some (.file content)
  visible : ∀ component ∈ directories ++ [name], component.toList.head? ≠ some '.'
  unlinked : ∀ count ≤ directories.length + 1, 0 < count → ∀ target,
    files.entryAt? (root ++ (directories ++ [name]).take count) ≠ some (.link target)
  ending : ∃ ending ∈ [".js", ".ts", ".mjs", ".cjs"], ending.toList <:+ name.toList
  notDerived : ∀ ending ∈ [".d.ts", ".min.js"], ¬ ending.toList <:+ name.toList
  outside : ∀ directory ∈ ["node_modules", "dist"], directories.head? ≠ some directory
  directories : ∀ directory ∈ directories, ∀ ending ∈ [".d.ts", ".min.js", ".map"],
    ¬ ending.toList <:+ directory.toList

namespace Node

theorem take_onto (front back : Location) (directory name : String) :
    (front ++ directory :: back ++ [name]).take (front.length + 1) = front ++ [directory] := by
  rw [List.append_assoc, List.take_length_add_append]
  rfl

theorem split_before (directories : Location) (count : Nat) (positive : 0 < count)
    (bound : count ≤ directories.length) :
    ∃ front directory back, directories = front ++ directory :: back ∧
      front.length + 1 = count := by
  have inside : count - 1 < directories.length := by omega
  refine ⟨directories.take (count - 1), directories[count - 1], directories.drop (count - 1 + 1),
    ?_, ?_⟩
  · rw [← List.drop_eq_getElem_cons inside, List.take_append_drop]
  · rw [List.length_take]
    omega

theorem source_of_listed (files : Node) (root directories : Location) (name : String)
    (components : ∀ known ∈ directories ++ [name], IsComponent known)
    (listed : files.Listed root Workspace.sourcePatterns Workspace.sourceExclusions false
      (relativePath (directories ++ [name]))) :
    files.IsSource root directories name ∧
      ∀ directory ∈ directories, '\n' ∉ directory.toList := by
  obtain ⟨visible, unlinked, entered, included, notExcluded, entry⟩ := listed
  rw [path_names_relative _ (by simp) components] at visible unlinked entered entry
  have isComponent := components name (by simp)
  obtain ⟨ending, isSource, matched⟩ := (included_iff _).mp included
  obtain ⟨reached, isEnding⟩ := (Glob.with_ending_matches ending
    (no_slash_in_endings ending (List.mem_append_left _ isSource)) directories name
    isComponent).mp matched
  have enteredAt : ∀ front directory back, directories = front ++ directory :: back →
      ∀ pattern ∈ Workspace.sourceExclusions,
        (Glob.ofString pattern).matchesPath (relativePath (front ++ [directory])) = false := by
    rintro front directory back rfl
    have known := entered (front.length + 1) (by simp) (Nat.succ_pos _)
    rwa [take_onto] at known
  refine ⟨?_, reached⟩
  constructor
  case file => exact entry.resolve_right fun isDirectory => absurd isDirectory.1 (by decide)
  case visible => exact visible
  case unlinked => simpa using unlinked
  case ending => exact ⟨ending, isSource, isEnding⟩
  case notDerived =>
    intro ending isDerived
    apply original_of_kept directories name isComponent reached notExcluded ending
    exact List.mem_append_left [".map"] isDerived
  case outside =>
    intro directory isForeign isFirst
    obtain ⟨rest, rfl⟩ := List.head?_eq_some_iff.mp isFirst
    apply outside_of_kept directory (enteredAt [] directory rest rfl)
    exact List.mem_append_left [".git"] isForeign
  case directories =>
    intro directory member
    obtain ⟨front, back, rfl⟩ := List.append_of_mem member
    apply original_of_kept front directory (components directory (by simp))
    · exact fun above isAbove => reached above (List.mem_append_left _ isAbove)
    · exact enteredAt front directory back rfl

/-- What ends like a source neither ends like a map nor is the name of a foreign directory. -/
theorem source_ending_excludes (name : String)
    (ending : ∃ ending ∈ sourceEndings, ending.toList <:+ name.toList) :
    ¬ ".map".toList <:+ name.toList ∧ name ∉ foreignDirectories := by
  obtain ⟨ending, isSource, isEnding⟩ := ending
  constructor
  · intro isMap
    have apart : ∀ ending ∈ sourceEndings,
        ¬ ending.toList <:+ ".map".toList ∧ ¬ ".map".toList <:+ ending.toList := by
      decide
    rcases List.suffix_or_suffix_of_suffix isEnding isMap with inMap | inEnding
    · exact (apart ending isSource).1 inMap
    · exact (apart ending isSource).2 inEnding
  · intro isForeign
    have apart : ∀ ending ∈ sourceEndings, ∀ directory ∈ foreignDirectories,
        ¬ ending.toList <:+ directory.toList := by
      decide
    exact apart ending isSource name isForeign isEnding

theorem listed_of_source (files : Node) (root directories : Location) (name : String)
    (components : ∀ known ∈ directories ++ [name], IsComponent known)
    (source : files.IsSource root directories name)
    (reached : ∀ directory ∈ directories, '\n' ∉ directory.toList) :
    files.Listed root Workspace.sourcePatterns Workspace.sourceExclusions false
      (relativePath (directories ++ [name])) := by
  have names := path_names_relative _ (by simp) components
  obtain ⟨file, visible, unlinked, ending, notDerived, outside, above⟩ := source
  obtain ⟨notMap, notForeign⟩ := source_ending_excludes name ending
  have isOutside : ∀ directory ∈ foreignDirectories,
      (directories ++ [name]).head? ≠ some directory := by
    intro directory isForeign isFirst
    rcases List.mem_append.mp (show directory ∈ ["node_modules", "dist"] ++ [".git"] from isForeign)
      with isPlain | isHidden
    · cases directories with
      | nil => exact notForeign (Option.some.inj isFirst ▸ isForeign)
      | cons first rest => exact outside directory isPlain isFirst
    · obtain ⟨rest, isWhole⟩ := List.head?_eq_some_iff.mp isFirst
      apply visible directory (by rw [isWhole]; exact List.mem_cons_self)
      rw [List.mem_singleton.mp isHidden]
      rfl
  constructor
  case visible => rwa [names]
  case unlinked => simpa [names] using unlinked
  case entered =>
    intro count bound positive
    rw [names] at bound ⊢
    obtain ⟨front, directory, back, rfl, rfl⟩ := split_before directories count positive
      (by simpa [Nat.lt_succ_iff] using bound)
    rw [take_onto]
    apply kept_of_names front directory
    · exact fun known member => components known (by simp at member ⊢; tauto)
    · simpa using isOutside
    · exact above directory (by simp)
  case included =>
    obtain ⟨ending, isSource, isEnding⟩ := ending
    exact (included_iff _).mpr ⟨ending, isSource, (Glob.with_ending_matches ending
      (no_slash_in_endings ending (List.mem_append_left _ isSource)) directories name
      (components name (by simp))).mpr ⟨reached, isEnding⟩⟩
  case notExcluded =>
    apply kept_of_names directories name components isOutside
    intro ending isDerived
    rcases List.mem_append.mp (show ending ∈ [".d.ts", ".min.js"] ++ [".map"] from isDerived)
      with isPlain | isMap
    · exact notDerived ending isPlain
    · rw [List.mem_singleton.mp isMap]
      exact notMap
  case entry =>
    rw [names]
    exact Or.inl file

end Node

namespace Workspace

/-- Below a directory every source file is listed whose directories have no line feed in their
names, and only source files are. -/
theorem source_files_listed (workspace : Workspace) (wellFormed : workspace.files.WellFormed)
    (root : Path) (isDirectory : workspace.isDirectory root = .ok true) :
    ∃ location paths, workspace.arrive true root = .ok (.existing location) ∧
      workspace.files.entryAt? location = some .directory ∧
      workspace.sourceFiles root [] = .ok paths ∧
      (∀ directories name, workspace.files.IsSource location directories name →
        (relativePath (directories ++ [name]) ∈ paths ↔
          ∀ directory ∈ directories, '\n' ∉ directory.toList)) ∧
      ∀ path ∈ paths, ∃ directories name, path = relativePath (directories ++ [name]) ∧
        workspace.files.IsSource location directories name := by
  obtain ⟨location, paths, leads, isRoot, scanned, -, members⟩ := scan_of_directory workspace
    wellFormed root sourcePatterns sourceExclusions false isDirectory
  have componentsOf : ∀ names content,
      workspace.files.entryAt? (location ++ names) = some (.file content) →
        ∀ name ∈ names, IsComponent name := by
    intro names content found name member
    exact Node.components_of_found _ _ wellFormed (by simp [found]) name
      (List.mem_append_right location member)
  refine ⟨location, paths, leads, isRoot, ?_, ?_, ?_⟩
  · rw [sourceFiles, List.append_nil]
    exact scanned
  · intro directories name source
    obtain ⟨content, found⟩ := source.file
    have components := componentsOf _ content found
    rw [members]
    constructor
    · exact fun listed => (Node.source_of_listed _ _ _ _ components listed).2
    · exact Node.listed_of_source _ _ _ _ components source
  · intro path member
    have listed := (members path).mp member
    rcases List.eq_nil_or_concat (pathNames path) with empty | ⟨directories, name, names⟩
    · exact absurd empty (path_names_ne_nil path)
    · rw [List.concat_eq_append] at names
      obtain ⟨content, found⟩ := listed.entry.resolve_right fun isDirectory =>
        absurd isDirectory.1 (by decide)
      rw [names] at found
      have same : path = relativePath (directories ++ [name]) := by
        rw [← names, relative_path_names]
      rw [same] at listed
      have components := componentsOf _ content found
      exact ⟨directories, name, same, (Node.source_of_listed _ _ _ _ components listed).1⟩

/-- Two source files, one of them in a directory with a line feed in its name. -/
def twoSources : Workspace :=
  { files := .directory
      [("a\nb", .directory [("x.js", .file [])]), ("src", .directory [("main.ts", .file [])])]
    workingDirectory := []
    home := "/"
    accounts := [] }

theorem two_sources_well_formed : twoSources.files.WellFormed := by
  have inner : ∀ name ∈ ["x.js", "main.ts"],
      (Node.directory [(name, .file [])]).WellFormed := by
    intro name member
    have isComponent : IsComponent name := by
      simp only [List.mem_cons, List.not_mem_nil, or_false] at member
      rcases member with rfl | rfl <;> simp [IsComponent]
    exact Node.directory_well_formed _ (by simp) (by simpa using isComponent)
      (by simpa using Node.leaf_well_formed _ rfl)
  apply Node.directory_well_formed _ (by decide) (by simp [IsComponent])
  simp only [List.forall_mem_cons]
  exact ⟨inner _ (by decide), inner _ (by decide), by simp⟩

theorem two_sources_are_sources (directory name : String)
    (member : (directory, name) ∈ [("a\nb", "x.js"), ("src", "main.ts")]) :
    twoSources.files.IsSource [] [directory] name := by
  have found : twoSources.files.entryAt? ([directory] ++ [name]) = some (.file []) := by
    simp only [List.mem_cons, Prod.mk.injEq, List.not_mem_nil, or_false] at member
    rcases member with ⟨rfl, rfl⟩ | ⟨rfl, rfl⟩ <;> decide
  constructor
  case file => exact ⟨[], found⟩
  case unlinked =>
    intro count _ _ target
    exact Node.unlinked_above _ _ count _ found (by simp) target
  all_goals
    simp only [List.mem_cons, Prod.mk.injEq, List.not_mem_nil, or_false] at member
    rcases member with ⟨rfl, rfl⟩ | ⟨rfl, rfl⟩ <;> decide

theorem two_sources_root : twoSources.isDirectory (Path.ofLocation []) = .ok true := by
  decide +kernel

theorem plain_source_is_listed :
    twoSources.files.WellFormed ∧ twoSources.isDirectory (Path.ofLocation []) = .ok true ∧
      ∃ paths, twoSources.sourceFiles (Path.ofLocation []) [] = .ok paths ∧
        twoSources.files.IsSource [] ["src"] "main.ts" ∧
        relativePath (["src"] ++ ["main.ts"]) ∈ paths := by
  have source := two_sources_are_sources "src" "main.ts" (by decide)
  have root : twoSources.arrive true (Path.ofLocation []) = .ok (.existing []) := by
    decide +kernel
  obtain ⟨location, paths, leads, -, listed, isListed, -⟩ :=
    source_files_listed twoSources two_sources_well_formed _ two_sources_root
  rw [root, Except.ok.injEq, Arrival.existing.injEq] at leads
  subst leads
  exact ⟨two_sources_well_formed, two_sources_root, paths, listed, source,
    (isListed _ _ source).mpr (by decide)⟩

/-- A source file is skipped where a directory above it has a line feed in its name. -/
theorem line_feed_hides_source :
    twoSources.files.WellFormed ∧ twoSources.isDirectory (Path.ofLocation []) = .ok true ∧
      twoSources.arrive true (Path.ofLocation []) = .ok (.existing []) ∧
      twoSources.files.IsSource [] ["a\nb"] "x.js" ∧
      ∃ paths, twoSources.sourceFiles (Path.ofLocation []) [] = .ok paths ∧
        relativePath (["a\nb"] ++ ["x.js"]) ∉ paths := by
  have listed : twoSources.sourceFiles (Path.ofLocation []) [] = .ok ["src/main.ts"] := by
    decide +kernel
  exact ⟨two_sources_well_formed, two_sources_root, by decide +kernel,
    two_sources_are_sources _ _ (by decide), _, listed, by decide⟩

end Workspace

end ReadmePress
