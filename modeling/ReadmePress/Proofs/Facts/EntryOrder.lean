import Mathlib.Data.List.Perm.Basic
import ReadmePress.Proofs.Document.FixedLayout
import ReadmePress.Proofs.Document.ProjectHeadings
import ReadmePress.Proofs.Facts.FactFiles
import ReadmePress.Proofs.Facts.ManifestSummary

/-!
The order of the entries in a manifest. Packages, the runtime version and the stack are told by
the entries of a map as a set, so a document is the same whatever order the dependencies and the
engines are declared in, unless the file of the manifest is read for something else as well.
-/

namespace ReadmePress

open ReadmePress.Text

namespace Manifest

/-- The fields whose entries are looked up by name only. -/
def unorderedFields : List String := ["dependencies", "devDependencies", "engines"]

/-- Members of an object, with the entries of the unordered fields in an order of their own. -/
def Permutes (members others : List (WideText × Json)) : Prop :=
  ∀ name, Json.member? others name = Json.member? members name ∨
    name ∈ unorderedFields ∧ ∃ entries permuted,
      Json.member? members name = some (.object entries) ∧
        Json.member? others name = some (.object permuted) ∧ entries.Perm permuted

/-- Maps that are both absent, or have the same entries and no name twice. -/
inductive Reordered : Option TextMap → Option TextMap → Prop
  | absent : Reordered none none
  | present (entries others : TextMap) (distinct : (OrderedMap.keys entries).Nodup)
      (order : entries.Perm others) : Reordered (some entries) (some others)

/-- Manifests that differ in the order of entries at most. -/
structure SameEntries (manifest other : Manifest) : Prop where
  name : other.name = manifest.name
  version : other.version = manifest.version
  description : other.description = manifest.description
  scripts : other.scripts = manifest.scripts
  dependencies : Reordered manifest.dependencies other.dependencies
  devDependencies : Reordered manifest.devDependencies other.devDependencies
  license : other.license = manifest.license
  engines : Reordered manifest.engines other.engines

section Reading

variable (members others : List (WideText × Json)) (permutes : Permutes members others)
  (distinct : (Json.object members).NamesDistinct)

include permutes

theorem text_field_same (name : String) (ordered : name ∉ unorderedFields) :
    Json.member? others name = Json.member? members name := by
  rcases permutes name with same | ⟨unordered, -⟩
  · exact same
  · exact absurd unordered ordered

include distinct

theorem map_field_reordered (name : String) :
    Reordered ((Json.member? members name).bind fieldMap?)
      ((Json.member? others name).bind fieldMap?) := by
  have below : ∀ value, Json.member? members name = some value → value.NamesDistinct := by
    intro value found
    cases distinct with
    | single value noArray noObject => exact absurd rfl (noObject members)
    | object members distinct below =>
        exact below _ (OrderedMap.mem_of_find members _ value found)
  rcases permutes name with same | ⟨-, entries, permuted, found, otherFound, order⟩
  · rw [same]
    cases isField : (Json.member? members name).bind fieldMap? with
    | none => exact .absent
    | some map =>
        obtain ⟨value, found, isMap⟩ := Option.bind_eq_some_iff.mp isField
        exact .present map map (field_map_distinct value (below value found) map isMap)
          (List.Perm.refl map)
  · rw [found, otherFound]
    exact .present _ _ (field_map_distinct (.object entries) (below _ found) _ rfl) (order.map _)

theorem of_members_permuted : (ofMembers members).SameEntries (ofMembers others) where
  name := by
    simp only [ofMembers, text_field_same members others permutes "name" (by decide)]
  version := by
    simp only [ofMembers, text_field_same members others permutes "version" (by decide)]
  description := by
    simp only [ofMembers, text_field_same members others permutes "description" (by decide)]
  scripts := by
    simp only [ofMembers, text_field_same members others permutes "scripts" (by decide)]
  dependencies := map_field_reordered members others permutes distinct "dependencies"
  devDependencies := map_field_reordered members others permutes distinct "devDependencies"
  license := by
    simp only [ofMembers, text_field_same members others permutes "license" (by decide)]
  engines := map_field_reordered members others permutes distinct "engines"

end Reading

section Telling

variable {manifest other : Manifest} (same : manifest.SameEntries other)

include same

theorem packages_reordered : (packages (some manifest)).Perm (packages (some other)) := by
  have dependencies := same.dependencies
  simp only [packages, Option.bind_some]
  generalize manifest.dependencies = map at dependencies ⊢
  generalize other.dependencies = otherMap at dependencies ⊢
  cases dependencies with
  | absent => exact List.Perm.refl _
  | present entries others distinct order => exact order.filterMap _

theorem detected_same (language : Language) :
    detectFeatures (packages (some other)) language =
      detectFeatures (packages (some manifest)) language := by
  have known : (packages (some other)).contains = (packages (some manifest)).contains := by
    funext name
    exact (packages_reordered same).contains_eq.symm
  simp only [detectFeatures, known]

theorem node_engine_same : other.nodeEngine = manifest.nodeEngine := by
  have engines := same.engines
  simp only [nodeEngine]
  generalize manifest.engines = map at engines ⊢
  generalize other.engines = otherMap at engines ⊢
  cases engines with
  | absent => rfl
  | present entries others distinct order => exact OrderedMap.find_of_perm _ _ _ distinct order

end Telling

end Manifest

/-- The stack does not show the order of the dependencies. -/
theorem stack_lines_reordered (dependencies others : List (String × String))
    (distinct : (OrderedMap.keys dependencies).Nodup) (order : dependencies.Perm others) :
    stackLines (some others) = stackLines (some dependencies) := by
  have names : SortedSet.ofList (OrderedMap.keys others) =
      SortedSet.ofList (OrderedMap.keys dependencies) := by
    refine List.Pairwise.eq_of_mem_iff (SortedSet.of_list_sorted _) (SortedSet.of_list_sorted _) ?_
    intro name
    rw [SortedSet.mem_of_list, SortedSet.mem_of_list]
    exact ((order.map Prod.fst).mem_iff).symm
  simp only [stackLines, Option.getD_some, names]
  apply List.map_congr_left
  intro name _
  rw [OrderedMap.find_of_perm dependencies others name distinct order]

namespace WideFacts

theorem plain_pairs (entries : TextMap) :
    entries.mapM plainPair? =
      if entries.all fun entry => (plainPair? entry).isSome then
        some (entries.filterMap plainPair?)
      else none := by
  induction entries with
  | nil => rfl
  | cons entry rest induction =>
      rw [List.mapM_cons, induction, List.all_cons, List.filterMap_cons]
      cases plainPair? entry with
      | none => rfl
      | some plain =>
          simp only [Option.isSome_some, Bool.true_and]
          split <;> rfl

theorem plain_map_reordered (map other : Option TextMap)
    (reordered : Manifest.Reordered map other) :
    (plainMap? map = none ∧ plainMap? other = none) ∨
      ∃ plain others, plainMap? map = some plain ∧ plainMap? other = some others ∧
        stackLines others = stackLines plain := by
  cases reordered with
  | absent => exact Or.inr ⟨none, none, rfl, rfl, rfl⟩
  | present entries others distinct order =>
      rw [plainMap?, plainMap?, plain_pairs, plain_pairs, order.all_eq]
      split
      · refine Or.inr ⟨_, _, rfl, rfl, ?_⟩
        apply stack_lines_reordered _ _ _ (order.filterMap plainPair?)
        rw [OrderedMap.keys, List.Nodup, List.pairwise_map] at distinct ⊢
        rw [List.pairwise_filterMap]
        refine distinct.imp fun different first isFirst second isSecond same => different ?_
        rw [(plain_pair_eq_some_iff _ _).mp isFirst, (plain_pair_eq_some_iff _ _).mp isSecond,
          widePair, widePair, same]
      · exact Or.inl ⟨rfl, rfl⟩

theorem veiled_text_injective (text other : WideText) (same : veiledText text = veiledText other) :
    text = other :=
  WideText.veil_injective text other (String.ofList_injective same)

/-- Veils keep the names of a map apart, so that the stack of veiled dependencies does not show
their order either. -/
theorem veiled_map_reordered (map other : Option TextMap)
    (reordered : Manifest.Reordered map other) :
    stackLines (other.map veiledMap) = stackLines (map.map veiledMap) := by
  cases reordered with
  | absent => rfl
  | present entries others distinct order =>
      apply stack_lines_reordered _ _ _ (order.map _)
      rw [OrderedMap.keys, List.Nodup, List.pairwise_map] at distinct ⊢
      rw [List.pairwise_map]
      exact distinct.imp fun different same => different (veiled_text_injective _ _ same)

/-- Facts that differ in the order of their dependencies at most. -/
def SameEntries (facts other : WideFacts) : Prop :=
  ∃ dependencies, other = { facts with dependencies := dependencies } ∧
    Manifest.Reordered facts.dependencies dependencies

end WideFacts

/-- The stack of a document is all that it shows of the dependencies. -/
theorem full_document_same (sheet : FactSheet) (dependencies : Option (List (String × String)))
    (same : stackLines dependencies = stackLines sheet.dependencies) :
    fullDocument { sheet with dependencies := dependencies } = fullDocument sheet := by
  have bodies : ∀ kind, sectionBody { sheet with dependencies := dependencies } kind =
      sectionBody sheet kind := by
    intro kind
    cases kind with
    | stack => simp only [sectionBody, same]
    | _ => rfl
  have sections : sectionDraft { sheet with dependencies := dependencies } =
      sectionDraft sheet := by
    funext kind
    simp only [sectionDraft, bodies]
  simp only [fullDocument, fullDraft, sections]
  rfl

/-- Facts in another order make a sheet if and only if they make one as they are, and the sheets
differ in their dependencies at most. -/
theorem WideFacts.sheet_reordered (facts : WideFacts) (dependencies : Option TextMap)
    (reordered : Manifest.Reordered facts.dependencies dependencies) :
    (facts.sheet? = none ∧ { facts with dependencies := dependencies }.sheet? = none) ∨
      ∃ sheet others, facts.sheet? = some sheet ∧
        { facts with dependencies := dependencies }.sheet? =
          some { sheet with dependencies := others } ∧
        stackLines others = stackLines sheet.dependencies := by
  rcases plain_map_reordered _ _ reordered with
    ⟨absent, otherAbsent⟩ | ⟨plain, others, isPlain, otherPlain, sameStack⟩
  · refine Or.inl ⟨?_, ?_⟩
    · simp [sheet?, absent]
    · simp [sheet?, otherAbsent]
  · simp only [sheet?, isPlain, otherPlain]
    cases facts.name.toString? with
    | none => exact Or.inl ⟨rfl, rfl⟩
    | some name =>
        cases facts.features.mapM WideText.toString? with
        | none => exact Or.inl ⟨rfl, rfl⟩
        | some features =>
            cases plainMap? facts.scripts with
            | none => exact Or.inl ⟨rfl, rfl⟩
            | some scripts => exact Or.inr ⟨_, others, rfl, rfl, sameStack⟩

namespace Workspace

/-- Bytes are the text of an object with these members. -/
def HoldsObject (content : List UInt8) (members : List (WideText × Json)) : Prop :=
  ∃ text, textOfBytes content = .ok text ∧ Json.parse text = .ok (.object members)

theorem manifest_for_object (workspace : Workspace) (directory : Path) (location : Location)
    (content : List UInt8) (members : List (WideText × Json))
    (leads : workspace.arrive true (Manifest.pathIn directory) = .ok (.existing location))
    (isFile : workspace.files.node? location = some (.file content))
    (holds : HoldsObject content members) :
    workspace.manifestFor directory = Traced.pure (some (Manifest.ofMembers members)) := by
  obtain ⟨text, decoded, parsed⟩ := holds
  have read : workspace.readBytes (Manifest.pathIn directory) = .ok content :=
    (read_bytes_ok_iff _ _ _).mpr ⟨location, (look_up_ok_iff _ _ _ _ _).mpr ⟨leads, isFile⟩⟩
  have asText : workspace.readText (Manifest.pathIn directory) = Traced.pure (some text) := by
    simp only [readText, read, decoded]
    rfl
  have asJson : workspace.readJson (Manifest.pathIn directory) =
      Traced.pure (some (.object members)) := by
    rw [readJson, asText]
    change Traced.bind (Traced.pure (some text)) _ = _
    simp only [Traced.bind, Traced.pure, parsed]
    rfl
  rw [manifestFor, loadManifest, asJson]
  rfl

theorem badge_line_reordered (workspace : Workspace) (directory : Path)
    {manifest other : Manifest} (same : manifest.SameEntries other) :
    workspace.badgeLine directory (some other) = workspace.badgeLine directory (some manifest) := by
  simp only [badgeLine, BadgeFacts.ofDirectory, Option.bind_some, same.license,
    Manifest.node_engine_same same]

theorem project_name_reordered (workspace : Workspace) (explicit : Option String)
    (directory : Path) {manifest other : Manifest} (same : manifest.SameEntries other) :
    workspace.projectName explicit (some other) directory =
      workspace.projectName explicit (some manifest) directory := by
  simp only [projectName, Option.bind_some, same.name]

/-- Facts from manifests that differ in the order of entries show one stack and are the same
otherwise. -/
theorem facts_reordered (workspace other : Workspace) (directory : Path) (request : FactsRequest)
    (alike : workspace.CollectsAlike other directory request.settings)
    (manifest otherManifest : Manifest)
    (same : manifest.SameEntries otherManifest)
    (found : workspace.manifestFor directory = Traced.pure (some manifest))
    (otherFound : other.manifestFor directory = Traced.pure (some otherManifest)) :
    Traced.Agree WideFacts.SameEntries (workspace.collectFacts directory request)
      (other.collectFacts directory request) := by
  unfold collectFacts collectRoutes collectEnvironmentKeys
  simp only [alike.settings, alike.sample, alike.badges, alike.name, alike.listing, found,
    otherFound]
  refine Traced.agree_after _ _ _ _ fun settings taken => ?_
  simp only [alike.texts settings taken]
  refine Traced.agree_bind
    (fun first second => first = some manifest ∧ second = some otherManifest) _ _ _ _ _
    (Traced.agree_pure _ _ _ ⟨rfl, rfl⟩) ?_
  rintro _ _ ⟨rfl, rfl⟩
  simp only [badge_line_reordered workspace directory same,
    project_name_reordered workspace request.name directory same,
    Manifest.detected_same same, Option.bind_some, same.scripts]
  refine Traced.agree_after _ _ _ _ fun options _ => ?_
  refine Traced.agree_after _ _ _ _ fun badges _ => ?_
  refine Traced.agree_after _ _ _ _ fun name _ => ?_
  refine Traced.agree_after _ _ _ _ fun listing _ => ?_
  refine Traced.agree_after _ _ _ _ fun routes _ => ?_
  refine Traced.agree_after _ _ _ _ fun keys _ => ?_
  refine Traced.agree_after _ _ _ _ fun _ _ => ?_
  exact Traced.agree_pure _ _ _ ⟨otherManifest.dependencies, rfl, same.dependencies⟩

/-- No document shows the order of the dependencies, not even one with lone surrogates. -/
theorem document_reordered (facts other : WideFacts) (same : facts.SameEntries other) :
    documentOf other = documentOf facts := by
  obtain ⟨dependencies, rfl, reordered⟩ := same
  have stack := WideFacts.veiled_map_reordered _ _ reordered
  have wide : wideDocument { facts with dependencies := dependencies } = wideDocument facts := by
    rw [wideDocument, wideDocument]
    exact congrArg (fun document : String => WideText.unveil document.toList)
      (full_document_same facts.veiled (dependencies.map WideFacts.veiledMap) stack)
  rcases facts.sheet_reordered dependencies reordered with
    ⟨noSheet, otherNone⟩ | ⟨sheet, others, isSheet, otherSheet, sameStack⟩
  · simp only [documentOf, noSheet, otherNone, wide]
  · simp only [documentOf, isSheet, otherSheet, full_document_same sheet others sameStack]

/-- The order in which a manifest declares dependencies and engines shows in no document, as long
as its file is not read for settings, for the sample of the environment or for a source too. -/
theorem described_without_order (workspace : Workspace) (arguments : FullArguments)
    (location : Location) (content permuted : List UInt8) (members others : List (WideText × Json))
    (leads : workspace.arrive true (Manifest.pathIn (workspace.directoryOr arguments.directory)) =
      .ok (.existing location))
    (isFile : workspace.files.node? location = some (.file content))
    (holds : HoldsObject content members) (holdsPermuted : HoldsObject permuted others)
    (permutes : Manifest.Permutes members others)
    (apart : ∀ path, workspace.IsDrawnFrom (workspace.directoryOr arguments.directory) none path →
      workspace.arrive true path ≠ .ok (.existing location)) :
    (workspace.withFiles (workspace.files.put location (.file permuted))).describe arguments =
      workspace.describe arguments := by
  have wasFile := (Node.entry_at_eq_file_iff _ _ _).mpr isFile
  have changed (other : Location) := Node.entry_at_put workspace.files (.file permuted) location
    other (Node.room_of_found _ _ _ wasFile) (Node.bare_of_file _ _ _ wasFile)
    (Node.file_is_bare permuted)
  have shape := Node.emptied_put workspace.files (.file permuted) _ location isFile rfl
  have alike := collects_alike workspace (workspace.directoryOr arguments.directory) none _ shape
    fun path drawn other leadsTo => by
      rw [changed, if_neg]
      rintro rfl
      exact apart path drawn leadsTo
  have found := manifest_for_object workspace _ location content members leads isFile holds
  have sameArrival := arrive_same workspace _ (Node.outline_of_shape _ _ shape) true
  have isPermuted := (Node.entry_at_eq_file_iff _ _ permuted).mp
    ((changed location).trans (if_pos rfl))
  have otherFound := manifest_for_object
    (workspace.withFiles (workspace.files.put location (.file permuted))) _ location permuted others
    ((sameArrival _).trans leads) isPermuted holdsPermuted
  obtain ⟨text, -, parsed⟩ := holds
  have sameEntries := Manifest.of_members_permuted members others permutes
    (Json.parse_distinct text _ parsed)
  have agree := facts_reordered workspace _ _ arguments.factsRequest alike _ _ sameEntries found
    otherFound
  have documents := Traced.agree_bind WideFacts.SameEntries Eq _ _ documentOf documentOf agree
    fun facts other same => by
      rw [document_reordered facts other same]
      exact Traced.agree_refl _
  exact (Traced.eq_of_agree _ _ documents).symm

/-- A manifest with two dependencies; the version of the first one looks like part of a route. -/
def declaredText : String :=
  "\x7b\"dependencies\":\x7b\"a\":\"app.get(\",\"b\":\"1\"\x7d\x7d"

/-- The same dependencies the other way round. -/
def permutedText : String :=
  "\x7b\"dependencies\":\x7b\"b\":\"1\",\"a\":\"app.get(\"\x7d\x7d"

/-- The dependencies that both texts declare. -/
def declaredEntries : List (WideText × Json) :=
  [(WideText.ofString "a", Json.ofString "app.get("), (WideText.ofString "b", Json.ofString "1")]

/-- An object of dependencies alone. -/
def dependenciesAlone (entries : List (WideText × Json)) : List (WideText × Json) :=
  [(WideText.ofString "dependencies", .object entries)]

theorem declared_objects :
    HoldsObject (encodeUtf8 declaredText.toList) (dependenciesAlone declaredEntries) ∧
      HoldsObject (encodeUtf8 permutedText.toList) (dependenciesAlone declaredEntries.reverse) ∧
      Manifest.Permutes (dependenciesAlone declaredEntries)
        (dependenciesAlone declaredEntries.reverse) := by
  have parsed : Json.parse declaredText.toList =
      .ok (.object (dependenciesAlone declaredEntries)) := rfl
  have parsedPermuted : Json.parse permutedText.toList =
      .ok (.object (dependenciesAlone declaredEntries.reverse)) := rfl
  refine ⟨⟨_, text_of_encoded_unified declaredText.toList (by decide), parsed⟩,
    ⟨_, text_of_encoded_unified permutedText.toList (by decide), parsedPermuted⟩, ?_⟩
  intro name
  by_cases isField : name = "dependencies"
  · rw [isField]
    exact Or.inr ⟨by decide, _, _, rfl, rfl, (List.reverse_perm _).symm⟩
  · have absent (entries : List (WideText × Json)) :
        Json.member? (dependenciesAlone entries) name = none := by
      have different : WideText.ofString "dependencies" ≠ WideText.ofString name :=
        fun same => isField (of_string_injective _ _ same).symm
      simp [Json.member?, dependenciesAlone, OrderedMap.find?, different]
    exact Or.inl (by rw [absent, absent])

/-- A manifest that is a file of its own, beside a source file. -/
def plainEntries (text : String) : List (String × Node) :=
  [("app.js", .file []), (Manifest.fileName, .file (encodeUtf8 text.toList))]

/-- A manifest that is a link to a source file. -/
def linkedEntries (text : String) : List (String × Node) :=
  [("deps.js", .file (encodeUtf8 text.toList)), (Manifest.fileName, .link "deps.js")]

theorem linked_manifest_arrives (text : String) :
    (rootOf (linkedEntries text)).arrive true (Manifest.pathIn (Path.ofLocation [])) =
      .ok (.existing ["deps.js"]) := rfl

theorem plain_manifest_order :
    (rootOf (plainEntries permutedText)).describe englishArguments =
      (rootOf (plainEntries declaredText)).describe englishArguments := by
  have flat : (rootOf (plainEntries declaredText)).IsFlat (plainEntries declaredText) :=
    { files := rfl
      atRoot := rfl
      distinct := by simp [plainEntries, Manifest.fileName]
      components := by simp [plainEntries, IsComponent, Manifest.fileName]
      leaves := by simp [plainEntries, Node.isDirectory]
      noSettings := by simp [plainEntries, Manifest.fileName, Settings.fileName] }
  have elsewhere : ∀ name ∈ [Settings.fileName, EnvironmentKey.sampleFileName, "app.js"],
      (rootOf (plainEntries declaredText)).arrive true (Path.ofLocation [name]) ≠
        .ok (.existing [Manifest.fileName]) := by
    decide +kernel
  have oneSource : (rootOf (plainEntries declaredText)).sourceFiles (Path.ofLocation []) [] =
      .ok ["app.js"] := by
    decide +kernel
  obtain ⟨settingsPlace, absent⟩ := flat.settings_place
  have loaded := load_settings_at _ _ _ _ settingsPlace
  rw [absent] at loaded
  exact described_without_order (rootOf (plainEntries declaredText)) englishArguments
    [Manifest.fileName] _ (encodeUtf8 permutedText.toList) _ _ (by decide +kernel) rfl
    declared_objects.1 declared_objects.2.1 declared_objects.2.2 fun path drawn => by
      cases drawn with
      | settings file named =>
          obtain rfl : Path.ofLocation [Settings.fileName] = path :=
            Except.ok.inj (settingsPlace.leadsToFile.symm.trans named)
          exact elsewhere _ (by decide)
      | sample => exact elsewhere _ (by decide)
      | source settings paths path taken scanned listed =>
          obtain rfl := Except.ok.inj ((settings_for_loaded _ _ _ loaded).symm.trans taken)
          obtain rfl : ["app.js"] = paths := Except.ok.inj (oneSource.symm.trans scanned)
          rw [List.mem_singleton.mp listed]
          exact elsewhere _ (by decide)

/-- What is found where the manifest is a link to a source. -/
def linkedSheet (routes : List String) (dependencies : List (String × String)) : FactSheet :=
  { FactSheet.ofName "demo" with
    options := { DocumentOptions.default with language := .english }
    listing := "deps.js"
    routes := routes
    dependencies := some dependencies }

/-- The sheets of both texts: one has a route that the other one has not. -/
def linkedSheets : List (String × FactSheet) :=
  [(declaredText, linkedSheet ["GET ,"] [("a", "app.get("), ("b", "1")]),
    (permutedText, linkedSheet [] [("b", "1"), ("a", "app.get(")])]

theorem linked_document (text : String) (sheet : FactSheet)
    (member : (text, sheet) ∈ linkedSheets) :
    ((rootOf (linkedEntries text)).describe englishArguments).outcome =
      .ok (fullDocument sheet) := by
  have flat : (rootOf (linkedEntries text)).IsFlat (linkedEntries text) :=
    { files := rfl
      atRoot := rfl
      distinct := by simp [linkedEntries, Manifest.fileName]
      components := by simp [linkedEntries, IsComponent, Manifest.fileName]
      leaves := by simp [linkedEntries, Node.isDirectory]
      noSettings := by simp [linkedEntries, Manifest.fileName, Settings.fileName] }
  have byDefault : ∀ entry ∈ linkedSheets,
      ((rootOf (linkedEntries entry.1)).collectFacts (Path.ofLocation [])
        { englishArguments.factsRequest with
          settings := some (Settings.default (Path.ofLocation [])) }).outcome.toOption =
        some (.ofSheet entry.2) := by
    decide +kernel
  have collected := (to_option_some_iff _ _).mp (byDefault _ member)
  exact flat.document englishArguments rfl sheet collected

theorem linked_sheet_lines (text : String) (sheet : FactSheet)
    (member : (text, sheet) ∈ linkedSheets) :
    linesOf (fullDocument sheet) = documentLines sheet ++ [[]] := by
  have noBadges : ∃ facts : BadgeFacts, facts.line = .ok "" :=
    ⟨{ license := none, node := none, typescript := false }, rfl⟩
  have inline : sheet.Inline := by
    simp only [linkedSheets, List.mem_cons, List.not_mem_nil, or_false, Prod.mk.injEq] at member
    rcases member with ⟨-, rfl⟩ | ⟨-, rfl⟩
    all_goals exact
      { name := by decide
        description := by decide
        badges := noBadges
        features := by decide
        scripts := by decide
        listing := ⟨by decide, by decide, by decide⟩
        routes := by decide
        environmentKeys := by decide
        dependencies := by decide
        distinct := by decide }
  rw [full_document_filled sheet inline, fill_drafted_lines sheet inline]

/-- Neither routes nor dependencies show above the routes of a document. -/
theorem lines_from_routes (sheet : FactSheet) :
    ∃ above, ∀ routes dependencies, ∃ below,
      documentLines { sheet with routes := routes, dependencies := dependencies } =
        above ++ (itemLines [sheet.options.language.placeholders.routes] routes ++ below) := by
  refine ⟨lineOf ("# " ++ sheet.name) :: badgeLines sheet
    ++ [[], describedLine sheet.options.language.placeholders.description sheet]
    ++ tocLines sheet.options
    ++ [DocumentSection.intro, .features, .quickstart, .scripts, .listing].flatMap
      (sectionLines sheet)
    ++ [[], headingLine sheet.options.language .api], fun routes dependencies =>
      ⟨[DocumentSection.environment, .stack, .license].flatMap
        (sectionLines { sheet with routes := routes, dependencies := dependencies }), ?_⟩⟩
  simp only [documentLines, DocumentSection.all, List.flatMap_cons, List.append_assoc]
  rfl

/-- Where the manifest is a link to a source, its text is searched for routes, and the order of its
entries shows. -/
theorem linked_manifest_order :
    (rootOf (linkedEntries declaredText)).arrive true (Manifest.pathIn (Path.ofLocation [])) =
        .ok (.existing ["deps.js"]) ∧
      HoldsObject (encodeUtf8 declaredText.toList) (dependenciesAlone declaredEntries) ∧
      HoldsObject (encodeUtf8 permutedText.toList) (dependenciesAlone declaredEntries.reverse) ∧
      Manifest.Permutes (dependenciesAlone declaredEntries)
        (dependenciesAlone declaredEntries.reverse) ∧
      ((rootOf (linkedEntries declaredText)).withFiles
          ((rootOf (linkedEntries declaredText)).files.put ["deps.js"]
            (.file (encodeUtf8 permutedText.toList)))) = rootOf (linkedEntries permutedText) ∧
      ((rootOf (linkedEntries permutedText)).describe englishArguments).outcome ≠
        ((rootOf (linkedEntries declaredText)).describe englishArguments).outcome := by
  refine ⟨linked_manifest_arrives declaredText, declared_objects.1, declared_objects.2.1,
    declared_objects.2.2, rfl, ?_⟩
  rw [linked_document declaredText _ List.mem_cons_self,
    linked_document permutedText _ (List.mem_cons_of_mem _ List.mem_cons_self)]
  intro same
  have documents := linked_sheet_lines _ _ (List.mem_cons_of_mem _ List.mem_cons_self)
  rw [Except.ok.inj same, linked_sheet_lines _ _ List.mem_cons_self] at documents
  obtain ⟨above, fromRoutes⟩ := lines_from_routes (linkedSheet [] [])
  obtain ⟨_, declared⟩ := fromRoutes ["GET ,"] (some [("a", "app.get("), ("b", "1")])
  obtain ⟨_, permuted⟩ := fromRoutes [] (some [("b", "1"), ("a", "app.get(")])
  have routes := List.append_cancel_left
    (declared.symm.trans ((List.append_cancel_right documents).trans permuted))
  exact absurd (List.cons.inj routes).1 (by decide)

end Workspace

end ReadmePress
