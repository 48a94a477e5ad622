import ReadmePress.Facts.EnvironmentKeys
import ReadmePress.Proofs.Reading
import ReadmePress.Proofs.Scan
import ReadmePress.Proofs.Text.Splitting

/-!
What routes and environment keys are collected from: the texts of the listed source files that
are UTF-8, as a set. How many files hold a text, where they stand, what they are called and what
is in all other files makes no difference. A file that cannot be read stops no collection, as
long as no name in the tree holds a null character, and none on a disk does.
-/

namespace ReadmePress

open ReadmePress.Text

namespace Node

/-- Trees that a disk can hold: besides being well formed, no name in them has a null
character. -/
structure OnDisk (files : Node) : Prop where
  wellFormed : files.WellFormed
  noNull : ∀ location entries, files.node? location = some (.directory entries) →
    ∀ name ∈ entries.map Prod.fst, '\x00' ∉ name.toList

/-- Every name that leads to a place is the name of an entry. -/
theorem entry_names (files : Node) (location : Location) (found : files.node? location ≠ none) :
    ∀ name ∈ location, ∃ above entries, files.node? above = some (.directory entries) ∧
      name ∈ entries.map Prod.fst := by
  intro name member
  obtain ⟨above, below, rfl⟩ := List.append_of_mem member
  rw [node_at_append] at found
  cases reached : files.node? above with
  | none => simp [reached] at found
  | some node =>
      cases node with
      | file content => simp [reached, node?] at found
      | link target => simp [reached, node?] at found
      | directory entries =>
          refine ⟨above, entries, reached, ?_⟩
          cases present : OrderedMap.find? entries name with
          | none => simp [reached, node?, present] at found
          | some child =>
              have member := OrderedMap.mem_of_find entries name child present
              exact List.mem_map.mpr ⟨_, member, rfl⟩

theorem names_without_null (files : Node) (location : Location) (onDisk : files.OnDisk)
    (found : files.entryAt? location ≠ none) : ∀ name ∈ location, '\x00' ∉ name.toList := by
  intro name member
  rw [Ne, entry_at_eq_none_iff] at found
  obtain ⟨above, entries, isDirectory, isName⟩ := entry_names files location found name member
  exact onDisk.noNull above entries isDirectory name isName

theorem leaf_on_disk (files : Node) (leaf : files.isDirectory = false) : files.OnDisk := by
  refine ⟨leaf_well_formed files leaf, ?_⟩
  intro location entries found
  cases location with
  | nil =>
      rw [node_at_root, Option.some.injEq] at found
      simp [found, isDirectory] at leaf
  | cons name rest => cases files <;> simp_all [node?, isDirectory]

theorem directory_on_disk (entries : List (String × Node))
    (distinct : (entries.map Prod.fst).Nodup)
    (names : ∀ name ∈ entries.map Prod.fst, IsComponent name ∧ '\x00' ∉ name.toList)
    (below : ∀ entry ∈ entries, entry.2.OnDisk) : (Node.directory entries).OnDisk := by
  refine ⟨directory_well_formed entries distinct (fun name member => (names name member).1)
    fun entry member => (below entry member).wellFormed, ?_⟩
  intro location inner found
  cases location with
  | nil =>
      rw [node_at_root, Option.some.injEq, directory.injEq] at found
      subst found
      exact fun name member => (names name member).2
  | cons name rest =>
      simp only [node?] at found
      obtain ⟨child, present, found⟩ := Option.bind_eq_some_iff.mp found
      exact (below _ (OrderedMap.mem_of_find entries name child present)).noNull rest inner found

end Node

theorem Traced.each_outcome {Fault Value Other : Type} (run : Value → Traced Fault Other)
    (result : Value → Other) (values : List Value)
    (succeeds : ∀ value ∈ values, (run value).outcome = .ok (result value)) :
    (Traced.each run values).outcome = .ok (values.map result) := by
  induction values with
  | nil => rfl
  | cons value rest induction =>
      obtain ⟨here, later⟩ := List.forall_mem_cons.mp succeeds
      have first := Traced.bind_outcome (run value)
        (fun found => Traced.bind (Traced.each run rest) fun others => Traced.pure (found :: others))
        _ here
      have others := Traced.bind_outcome (Traced.each run rest)
        (fun others => Traced.pure (result value :: others)) _ (induction later)
      exact first.trans others

namespace Workspace

section Listed

theorem null_in_listed (root : Path) (relative : String)
    (null : '\x00' ∈ (listedFile root relative).text.toList) :
    '\x00' ∈ root.text.toList ∨ '\x00' ∈ relative.toList := by
  obtain ⟨component, member, null⟩ := null_in_path _ null
  have parts : component ∈ root.components ∨ component ∈ (Path.ofString relative).components := by
    have whole : listedFile root relative = Path.append root (Path.ofString relative) := rfl
    rw [whole, Path.append] at member
    split at member
    · exact Or.inr member
    · exact List.mem_append.mp member
  exact parts.imp (fun inRoot => null_in_component root component inRoot null)
    (fun inRelative => null_in_components relative component inRelative null)

theorem null_in_relative (names : Location) (null : '\x00' ∈ (relativePath names).toList) :
    ∃ name ∈ names, '\x00' ∈ name.toList := by
  rw [relativePath, String.toList_intercalate] at null
  rcases mem_of_intercalate _ _ _ null with isSlash | ⟨characters, isPart, null⟩
  · exact absurd isSlash (by decide)
  · obtain ⟨name, member, rfl⟩ := List.mem_map.mp isPart
    exact ⟨name, member, null⟩

/-- The path of a listed source file holds no null character. -/
theorem listed_without_null (workspace : Workspace) (onDisk : workspace.files.OnDisk)
    (root : Path) (exclusions paths : List String)
    (listed : workspace.sourceFiles root exclusions = .ok paths) :
    ∀ path ∈ paths, '\x00' ∉ (listedFile root path).text.toList := by
  intro path member null
  cases answer : workspace.isDirectory root with
  | error fault =>
      rw [sourceFiles, scan_of_fault _ _ _ fault answer] at listed
      exact absurd listed (by simp)
  | ok isDirectory =>
      cases isDirectory with
      | false =>
          rw [sourceFiles, scan_of_no_directory _ _ _ answer, Except.ok.injEq] at listed
          rw [← listed] at member
          exact absurd member (by simp)
      | true =>
          obtain ⟨location, found, leads, -, scanned, -, members⟩ := scan_of_directory workspace
            onDisk.wellFormed root sourcePatterns (sourceExclusions ++ exclusions) false answer
          obtain rfl : found = paths := Except.ok.inj (scanned.symm.trans listed)
          rcases null_in_listed root path null with inRoot | inPath
          · obtain ⟨⟨text, checked⟩, -⟩ := (arrive_ok_iff workspace true root _).mp leads
            exact ((checked_text_iff root text).mp checked).2.1 inRoot
          · obtain ⟨content, isFile⟩ := ((members path).mp member).entry.resolve_right
              fun isDirectory => absurd isDirectory.1 (by decide)
            rw [← relative_path_names path] at inPath
            obtain ⟨name, isName, null⟩ := null_in_relative _ inPath
            exact Node.names_without_null _ _ onDisk (by simp [isFile]) name
              (List.mem_append_right location isName) null

/-- A text of the source files below a directory: a scan lists its file, and the file holds
it. -/
def IsSourceText (workspace : Workspace) (root : Path) (exclusions : List String)
    (text : List Char) : Prop :=
  ∃ paths, workspace.sourceFiles root exclusions = .ok paths ∧
    ∃ path ∈ paths, workspace.decodedText? (listedFile root path) = some text

theorem source_text_iff (workspace : Workspace) (root : Path) (exclusions paths : List String)
    (listed : workspace.sourceFiles root exclusions = .ok paths) (text : List Char) :
    workspace.IsSourceText root exclusions text ↔
      some text ∈ paths.map fun file => workspace.decodedText? (listedFile root file) := by
  simp only [IsSourceText, listed, Except.ok.injEq, exists_eq_left', List.mem_map]

/-- Where the scan completes, the source texts are collected. -/
theorem source_texts_outcome (workspace : Workspace) (onDisk : workspace.files.OnDisk)
    (root : Path) (exclusions paths : List String)
    (listed : workspace.sourceFiles root exclusions = .ok paths) :
    ∃ texts, (workspace.sourceTexts root exclusions).outcome = .ok texts ∧
      ∀ text, text ∈ texts ↔ workspace.IsSourceText root exclusions text := by
  have files : ((Traced.ofExcept (workspace.sourceFiles root exclusions)).mapFault
      ReadingFault.file).outcome = .ok paths :=
    (map_error_ok_iff ReadingFault.file _ _).mpr listed
  have read := Traced.each_outcome (fun file => workspace.readText (listedFile root file))
    (fun file => workspace.decodedText? (listedFile root file)) paths fun path member =>
      read_text_outcome workspace _
        (listed_without_null workspace onDisk root exclusions paths listed path member)
  refine ⟨(paths.map fun file => workspace.decodedText? (listedFile root file)).filterMap id,
    ?_, ?_⟩
  · exact (Traced.bind_outcome _ _ _ files).trans ((Traced.bind_outcome _ _ _ read).trans rfl)
  · intro text
    rw [source_text_iff workspace root exclusions paths listed, List.mem_filterMap]
    simp only [id_eq, exists_eq_right]

end Listed

section Collections

/-- A sample file that is missing or cannot be read stops nothing. -/
theorem environment_sample_outcome (workspace : Workspace) (root : Path) :
    ∃ sample, (workspace.environmentSample root).outcome = .ok sample := by
  simp only [environmentSample]
  split
  next present =>
    exact ⟨_, read_text_outcome workspace _ (file_exists_no_null workspace _ present)⟩
  next => exact ⟨none, rfl⟩

/-- A route of one of the source texts. -/
def IsRouteText (workspace : Workspace) (root : Path) (exclusions : List String)
    (route : String) : Prop :=
  ∃ text, workspace.IsSourceText root exclusions text ∧
    ∃ found ∈ Route.scan text, found.text = route

/-- A name that the sample declares or that one of the source texts reads. -/
def IsEnvironmentKey (workspace : Workspace) (root : Path) (exclusions : List String)
    (sample : Option (List Char)) (key : String) : Prop :=
  (∃ text, sample = some text ∧ key ∈ EnvironmentKey.ofSample text) ∨
    ∃ text, workspace.IsSourceText root exclusions text ∧ key ∈ EnvironmentKey.scan text

theorem routes_outcome (workspace : Workspace) (onDisk : workspace.files.OnDisk)
    (root : Path) (exclusions paths : List String)
    (listed : workspace.sourceFiles root exclusions = .ok paths) :
    ∃ routes : List String, routes.Pairwise (· < ·) ∧
      (∀ route, route ∈ routes ↔ workspace.IsRouteText root exclusions route) ∧
      (workspace.collectRoutes root exclusions).outcome = .ok (routes.take 20) := by
  obtain ⟨texts, collected, members⟩ :=
    source_texts_outcome workspace onDisk root exclusions paths listed
  refine ⟨_, SortedSet.of_list_sorted (texts.flatMap fun text =>
    (Route.scan text).map Route.text), ?_, ?_⟩
  · intro route
    rw [SortedSet.mem_of_list, List.mem_flatMap]
    simp only [members, List.mem_map, IsRouteText]
  · refine (Traced.bind_outcome _ _ _ collected).trans ?_
    -- A list that is cut leaves a record, and the outcome is the same with it and without it.
    simp only
    split
    · exact (Traced.bind_outcome _ _ () rfl).trans rfl
    · rfl

theorem environment_keys_outcome (workspace : Workspace) (onDisk : workspace.files.OnDisk)
    (root : Path) (exclusions paths : List String)
    (listed : workspace.sourceFiles root exclusions = .ok paths) (sample : Option (List Char))
    (sampled : (workspace.environmentSample root).outcome = .ok sample) :
    ∃ keys : List String, keys.Pairwise (· < ·) ∧
      (∀ key, key ∈ keys ↔ workspace.IsEnvironmentKey root exclusions sample key) ∧
      (workspace.collectEnvironmentKeys root exclusions).outcome = .ok keys := by
  obtain ⟨texts, collected, members⟩ :=
    source_texts_outcome workspace onDisk root exclusions paths listed
  refine ⟨_, SortedSet.of_list_sorted ((sample.map EnvironmentKey.ofSample).getD [] ++
    texts.flatMap EnvironmentKey.scan), ?_, ?_⟩
  · intro key
    rw [SortedSet.mem_of_list, List.mem_append, List.mem_flatMap]
    simp only [members, IsEnvironmentKey]
    cases sample <;> simp
  · exact (Traced.bind_outcome _ _ _ sampled).trans
      ((Traced.bind_outcome _ _ _ collected).trans rfl)

/-- What is collected is told by the set of source texts: the routes are the first twenty of all
their routes in order, and the keys are those of the sample and theirs in order. -/
theorem collected_from_source_texts (workspace : Workspace) (onDisk : workspace.files.OnDisk)
    (root : Path) (exclusions : List String)
    (scans : ∃ paths, workspace.sourceFiles root exclusions = .ok paths) :
    (∃ routes : List String, routes.Pairwise (· < ·) ∧
      (∀ route, route ∈ routes ↔ workspace.IsRouteText root exclusions route) ∧
      (workspace.collectRoutes root exclusions).outcome = .ok (routes.take 20)) ∧
    (∃ (sample : Option (List Char)) (keys : List String),
      (workspace.environmentSample root).outcome = .ok sample ∧ keys.Pairwise (· < ·) ∧
      (∀ key, key ∈ keys ↔ workspace.IsEnvironmentKey root exclusions sample key) ∧
      (workspace.collectEnvironmentKeys root exclusions).outcome = .ok keys) ∧
    ∀ (other : Workspace) (otherRoot : Path) (otherExclusions : List String),
      other.files.OnDisk →
      (∃ paths, other.sourceFiles otherRoot otherExclusions = .ok paths) →
      (∀ text, other.IsSourceText otherRoot otherExclusions text ↔
        workspace.IsSourceText root exclusions text) →
      (other.collectRoutes otherRoot otherExclusions).outcome =
          (workspace.collectRoutes root exclusions).outcome ∧
        ((other.environmentSample otherRoot).outcome = (workspace.environmentSample root).outcome →
          (other.collectEnvironmentKeys otherRoot otherExclusions).outcome =
            (workspace.collectEnvironmentKeys root exclusions).outcome) := by
  obtain ⟨paths, listed⟩ := scans
  obtain ⟨sample, sampled⟩ := environment_sample_outcome workspace root
  obtain ⟨routes, routesSorted, isRoute, foundRoutes⟩ :=
    routes_outcome workspace onDisk root exclusions paths listed
  obtain ⟨keys, keysSorted, isKey, foundKeys⟩ :=
    environment_keys_outcome workspace onDisk root exclusions paths listed sample sampled
  refine ⟨⟨routes, routesSorted, isRoute, foundRoutes⟩,
    ⟨sample, keys, sampled, keysSorted, isKey, foundKeys⟩, ?_⟩
  rintro other otherRoot otherExclusions otherOnDisk ⟨otherPaths, otherListed⟩ sameTexts
  constructor
  · obtain ⟨others, othersSorted, isOther, foundOthers⟩ :=
      routes_outcome other otherOnDisk otherRoot otherExclusions otherPaths otherListed
    have same : others = routes := by
      apply List.Pairwise.eq_of_mem_iff othersSorted routesSorted
      intro route
      rw [isOther, isRoute]
      simp only [IsRouteText, sameTexts]
    rw [foundOthers, foundRoutes, same]
  · intro sameSample
    obtain ⟨others, othersSorted, isOther, foundOthers⟩ := environment_keys_outcome other
      otherOnDisk otherRoot otherExclusions otherPaths otherListed sample
      (sameSample.trans sampled)
    have same : others = keys := by
      apply List.Pairwise.eq_of_mem_iff othersSorted keysSorted
      intro key
      rw [isOther, isKey]
      simp only [IsEnvironmentKey, sameTexts]
    rw [foundOthers, foundKeys, same]

def appSource : String := "app.get('/b'); process.env.PORT"

def routerSource : String := "router.post(\"/a\")"

/-- A project of two source files. -/
def plainProject : Workspace :=
  { files := .directory
      [("app.js", .file (encodeUtf8 appSource.toList)),
        ("lib", .directory [("api.ts", .file (encodeUtf8 routerSource.toList))])]
    workingDirectory := []
    home := "/"
    accounts := [] }

/-- The same source texts under other names, one of them twice, beside a hidden file, a linked
one, and one that is not UTF-8. -/
def rearrangedProject : Workspace :=
  { files := .directory
      [("src", .directory
          [("b.mjs", .file (encodeUtf8 routerSource.toList)),
            ("a.cjs", .file (encodeUtf8 appSource.toList)),
            ("bytes.js", .file [0xff])]),
        (".hidden.js", .file (encodeUtf8 "app.get('/c')".toList)),
        ("copy.js", .file (encodeUtf8 routerSource.toList)),
        ("linked.js", .link "src/a.cjs")]
    workingDirectory := []
    home := "/"
    accounts := [] }

theorem projects_on_disk : plainProject.files.OnDisk ∧ rearrangedProject.files.OnDisk := by
  have file (content : List UInt8) : (Node.file content).OnDisk := Node.leaf_on_disk _ rfl
  have link (target : String) : (Node.link target).OnDisk := Node.leaf_on_disk _ rfl
  constructor
  · refine Node.directory_on_disk _ (by decide) (by simp [IsComponent]) ?_
    simp only [List.forall_mem_cons, List.not_mem_nil, false_implies, implies_true, and_true]
    refine ⟨file _, Node.directory_on_disk _ (by decide) (by simp [IsComponent]) ?_⟩
    simp [file]
  · refine Node.directory_on_disk _ (by decide) (by simp [IsComponent]) ?_
    simp only [List.forall_mem_cons, List.not_mem_nil, false_implies, implies_true, and_true]
    refine ⟨Node.directory_on_disk _ (by decide) (by simp [IsComponent]) ?_, file _, file _, link _⟩
    simp [file]

theorem plain_project_texts :
    plainProject.sourceFiles (Path.ofLocation []) [] = .ok ["app.js", "lib/api.ts"] ∧
      ∀ text, plainProject.IsSourceText (Path.ofLocation []) [] text ↔
        text = appSource.toList ∨ text = routerSource.toList := by
  have listed : plainProject.sourceFiles (Path.ofLocation []) [] =
      .ok ["app.js", "lib/api.ts"] := by
    decide +kernel
  have texts : ["app.js", "lib/api.ts"].map
      (fun file => plainProject.decodedText? (listedFile (Path.ofLocation []) file)) =
        [some appSource.toList, some routerSource.toList] := by
    decide +kernel
  refine ⟨listed, fun text => ?_⟩
  rw [source_text_iff _ _ _ _ listed, texts]
  simp

theorem rearranged_project_texts :
    rearrangedProject.sourceFiles (Path.ofLocation []) [] =
        .ok ["copy.js", "src/a.cjs", "src/b.mjs", "src/bytes.js"] ∧
      ∀ text, rearrangedProject.IsSourceText (Path.ofLocation []) [] text ↔
        text = appSource.toList ∨ text = routerSource.toList := by
  have listed : rearrangedProject.sourceFiles (Path.ofLocation []) [] =
      .ok ["copy.js", "src/a.cjs", "src/b.mjs", "src/bytes.js"] := by
    decide +kernel
  have texts : ["copy.js", "src/a.cjs", "src/b.mjs", "src/bytes.js"].map
      (fun file => rearrangedProject.decodedText? (listedFile (Path.ofLocation []) file)) =
        [some routerSource.toList, some appSource.toList, some routerSource.toList, none] := by
    decide +kernel
  refine ⟨listed, fun text => ?_⟩
  rw [source_text_iff _ _ _ _ listed, texts]
  simp only [List.mem_cons, List.not_mem_nil, or_false, Option.some.injEq, reduceCtorEq]
  constructor
  · rintro (same | same | same)
    exacts [Or.inr same, Or.inl same, Or.inr same]
  · rintro (same | same)
    exacts [Or.inr (Or.inl same), Or.inl same]

theorem rearranged_project_collects_same :
    plainProject.files.OnDisk ∧ rearrangedProject.files.OnDisk ∧
      (∃ paths, plainProject.sourceFiles (Path.ofLocation []) [] = .ok paths) ∧
      (∃ paths, rearrangedProject.sourceFiles (Path.ofLocation []) [] = .ok paths) ∧
      (∀ text, rearrangedProject.IsSourceText (Path.ofLocation []) [] text ↔
        plainProject.IsSourceText (Path.ofLocation []) [] text) ∧
      (rearrangedProject.collectRoutes (Path.ofLocation []) []).outcome =
        (plainProject.collectRoutes (Path.ofLocation []) []).outcome ∧
      (rearrangedProject.collectEnvironmentKeys (Path.ofLocation []) []).outcome =
        (plainProject.collectEnvironmentKeys (Path.ofLocation []) []).outcome := by
  obtain ⟨plainOnDisk, rearrangedOnDisk⟩ := projects_on_disk
  obtain ⟨listed, texts⟩ := plain_project_texts
  obtain ⟨otherListed, otherTexts⟩ := rearranged_project_texts
  have sameTexts : ∀ text, rearrangedProject.IsSourceText (Path.ofLocation []) [] text ↔
      plainProject.IsSourceText (Path.ofLocation []) [] text :=
    fun text => (otherTexts text).trans (texts text).symm
  have sameSample : (rearrangedProject.environmentSample (Path.ofLocation [])).outcome =
      (plainProject.environmentSample (Path.ofLocation [])).outcome := by
    decide +kernel
  obtain ⟨-, -, sameCollections⟩ :=
    collected_from_source_texts plainProject plainOnDisk (Path.ofLocation []) [] ⟨_, listed⟩
  obtain ⟨sameRoutes, sameKeys⟩ := sameCollections rearrangedProject (Path.ofLocation []) []
    rearrangedOnDisk ⟨_, otherListed⟩ sameTexts
  exact ⟨plainOnDisk, rearrangedOnDisk, ⟨_, listed⟩, ⟨_, otherListed⟩, sameTexts, sameRoutes,
    sameKeys sameSample⟩

end Collections

end Workspace

end ReadmePress
