import ReadmePress.Proofs.Document.PlainFacts
import ReadmePress.Proofs.Facts.FlatRoot
import ReadmePress.Proofs.Facts.WideFacts
import ReadmePress.Tools.Operation

/-!
The headings in the full document of a project without a description. Every project has all of
them, each in its place. Whether a fence is open there depends on the parts above it: a project
whose facts are plain keeps every heading outside of fences, and a file whose name is a fence
marker is enough to swallow some.
-/

namespace ReadmePress

open ReadmePress.Text

/-- A heading that is a line of a text, after a blank line and outside every fence. -/
def ShowsHeading (text : String) (heading : List Char) : Prop :=
  ∃ above below, linesOf text = above ++ [] :: heading :: below ∧ Tidy.openFence above = none

/-- Whether a line stands outside of fences in lines that a fence is open before. -/
def standsUnfenced (heading : List Char) : Option Tidy.Fence → List (List Char) → Bool
  | _, [] => false
  | fence, line :: rest =>
      (fence.isNone && line == heading)
        || standsUnfenced heading (Tidy.fenceAfter fence line) rest

theorem stands_unfenced_append (heading : List Char) (fence : Option Tidy.Fence)
    (above below : List (List Char)) :
    standsUnfenced heading fence (above ++ below) =
      (standsUnfenced heading fence above
        || standsUnfenced heading (above.foldl Tidy.fenceAfter fence) below) := by
  induction above generalizing fence with
  | nil => rfl
  | cons line rest induction =>
      rw [List.cons_append, standsUnfenced, standsUnfenced, induction, Bool.or_assoc,
        List.foldl_cons]

theorem stands_unfenced (heading : List Char) (fence : Option Tidy.Fence)
    (above below : List (List Char)) (unfenced : above.foldl Tidy.fenceAfter fence = none) :
    standsUnfenced heading fence (above ++ heading :: below) = true := by
  rw [stands_unfenced_append, unfenced]
  simp [standsUnfenced]

/-- A part that has a heading nowhere outside of fences, between the fence above the part and the
one below it. -/
def Hides (heading : List Char) (above : Option Tidy.Fence) (part : String)
    (below : Option Tidy.Fence) : Prop :=
  standsUnfenced heading above (Tidy.textLines (shownLines part)) = false ∧
    fenceOver above part = below

instance (heading : List Char) (above : Option Tidy.Fence) (part : String)
    (below : Option Tidy.Fence) : Decidable (Hides heading above part below) :=
  inferInstanceAs (Decidable (_ ∧ _))

theorem hidden_after (heading : List Char) (above below : Option Tidy.Fence) (part : String)
    (lines : List (List Char)) (hides : Hides heading above part below)
    (hidden : standsUnfenced heading below (Tidy.textLines lines) = false) :
    standsUnfenced heading above (Tidy.textLines (shownLines part ++ lines)) = false := by
  have fence : (shownLines part).foldl Tidy.fenceAfter above = below := hides.2
  rw [Tidy.text_lines_append, stands_unfenced_append, hides.1, Bool.false_or,
    Tidy.fence_of_text_lines, fence, hidden]

theorem hidden_after_parts (heading : List Char) (fence : Option Tidy.Fence) (parts : List String)
    (lines : List (List Char)) (hide : ∀ part ∈ parts, Hides heading fence part fence)
    (hidden : standsUnfenced heading fence (Tidy.textLines lines) = false) :
    standsUnfenced heading fence (Tidy.textLines (parts.flatMap shownLines ++ lines)) = false := by
  induction parts with
  | nil => exact hidden
  | cons part rest induction =>
      obtain ⟨here, later⟩ := List.forall_mem_cons.mp hide
      rw [List.flatMap_cons, List.append_assoc]
      exact hidden_after heading fence fence part _ here (induction later)

/-- A document shows a heading only where the parts of its draft have it outside of fences. -/
theorem shown_heading_stands (sheet : FactSheet) (noDescription : sheet.description = "")
    (heading : List Char) (notBlank : heading ≠ [])
    (shows : ShowsHeading (fullDocument sheet) heading) :
    standsUnfenced heading none
      (Tidy.textLines (shownLines (leadDraft sheet) ++
        DocumentSection.all.flatMap fun kind => shownLines (sectionDraft sheet kind))) = true := by
  obtain ⟨above, below, lines, unfenced⟩ := shows
  have text : Tidy.textLines (heading :: below) = heading :: Tidy.textLines below := by
    simp [Tidy.textLines, notBlank]
  have blank : Tidy.textLines ([] :: heading :: below) = Tidy.textLines (heading :: below) := rfl
  rw [← document_text_lines sheet noDescription, lines, Tidy.text_lines_append, blank, text]
  apply stands_unfenced heading none
  rw [Tidy.fence_of_text_lines]
  exact unfenced

/-- What a document asks to be collected. -/
def FullArguments.factsRequest (arguments : FullArguments) : FactsRequest :=
  { name := arguments.name
    description := arguments.description
    extraFeatures := arguments.extraFeatures.getD []
    options := arguments.options
    settings := none }

namespace Workspace

theorem described_facts (workspace : Workspace) (arguments : FullArguments) (text : String)
    (described : (workspace.describe arguments).outcome = .ok text) :
    ∃ sheet, (workspace.collectFacts (workspace.directoryOr arguments.directory)
        arguments.factsRequest).outcome = .ok (.ofSheet sheet) ∧ text = fullDocument sheet := by
  obtain ⟨facts, collected, written⟩ := Traced.bind_ok _ _ _ described
  obtain ⟨sheet, rfl, rfl⟩ := (document_of_ok_iff facts text).mp written
  exact ⟨sheet, collected, rfl⟩

/-- The document of a flat root shows what default settings collect. -/
theorem IsFlat.document {workspace : Workspace} {entries : List (String × Node)}
    (flat : workspace.IsFlat entries) (arguments : FullArguments)
    (here : arguments.directory = none) (sheet : FactSheet)
    (collected : (workspace.collectFacts (Path.ofLocation [])
      { arguments.factsRequest with
        settings := some (Settings.default (Path.ofLocation [])) }).outcome =
        .ok (.ofSheet sheet)) :
    (workspace.describe arguments).outcome = .ok (fullDocument sheet) := by
  have directory : workspace.directoryOr arguments.directory = Path.ofLocation [] := by
    rw [here, directoryOr, flat.atRoot]
    rfl
  rw [describe, directory]
  exact (Traced.bind_outcome _ _ _ ((flat.facts arguments.factsRequest).trans collected)).trans
    ((document_of_ok_iff _ _).mpr ⟨sheet, rfl, rfl⟩)

/-- The document of a project without a description has every heading after a blank line, at
the place where its draft has it. All headings stand outside of fences exactly when neither the
lead nor the body of a section above the last heading leaves a fence open, and so they do when
the facts are plain. -/
theorem described_headings (workspace : Workspace) (arguments : FullArguments) (text : String)
    (noDescription : arguments.description.getD "" = "")
    (described : (workspace.describe arguments).outcome = .ok text) :
    ∃ sheet, (workspace.collectFacts (workspace.directoryOr arguments.directory)
        arguments.factsRequest).outcome = .ok (.ofSheet sheet) ∧ text = fullDocument sheet ∧
      (∃ above : DocumentSection → List (List Char),
        (∀ kind,
          (∃ below, linesOf text =
            above kind ++ [] :: headingLine sheet.options.language kind :: below) ∧
          Tidy.textLines (above kind) = Tidy.textLines (shownLines (draftAbove sheet kind))) ∧
        ((∀ kind, Tidy.openFence (above kind) = none) ↔
          LeavesNoFence (leadDraft sheet) ∧
            ∀ kind, kind ≠ .license → LeavesNoFence (sectionBody sheet kind))) ∧
      (sheet.Plain → ∀ kind, ShowsHeading text (headingLine sheet.options.language kind)) := by
  obtain ⟨sheet, collected, rfl⟩ := workspace.described_facts arguments text described
  have known := workspace.collect_facts_ok _ _ _ collected
  have empty : sheet.description = "" := known.description.trans noDescription
  choose above below lines sameText using document_heading sheet empty
  have fence : ∀ kind, Tidy.openFence (above kind) = fenceOver none (draftAbove sheet kind) := by
    intro kind
    rw [Tidy.openFence, ← Tidy.fence_of_text_lines, sameText kind, Tidy.fence_of_text_lines]
    rfl
  have unfenced : (∀ kind, Tidy.openFence (above kind) = none) ↔
      LeavesNoFence (leadDraft sheet) ∧
        ∀ kind, kind ≠ .license → LeavesNoFence (sectionBody sheet kind) := by
    simp only [fence]
    exact headings_unfenced_iff sheet
  refine ⟨sheet, collected, rfl, ⟨above, ?_, unfenced⟩, ?_⟩
  · exact fun kind => ⟨⟨below kind, lines kind⟩, sameText kind⟩
  · intro plain kind
    have lead := lead_leaves_no_fence sheet plain.name known.badges empty
    have bodies := body_leaves_no_fence sheet plain known.environmentKeys empty
    exact ⟨above kind, below kind, lines kind, unfenced.mpr ⟨lead, fun kind _ => bodies kind⟩ kind⟩

/-- A project of one empty file. -/
def oneFile (name : String) : Workspace :=
  { files := .directory [(name, .file [])], workingDirectory := [], home := "/", accounts := [] }

/-- A document in English is asked for. -/
def englishArguments : FullArguments :=
  { directory := none
    name := some "demo"
    description := none
    extraFeatures := none
    options := { OptionRequest.none with language := some "en" } }

/-- The facts about a project of one file: nothing but its name is listed. -/
def oneFileSheet (name : String) : FactSheet :=
  { FactSheet.ofName "demo" with
    options := { DocumentOptions.default with language := .english }
    listing := name }

/-- A plain name, and one that is a fence marker. -/
def twoNames : List String := ["app.js", "```"]

theorem one_file_flat (name : String) (member : name ∈ twoNames) :
    (oneFile name).IsFlat [(name, .file [])] := by
  have known : ∀ name ∈ twoNames,
      IsComponent name ∧ '\x00' ∉ name.toList ∧ name ≠ Settings.fileName := by
    simp [twoNames, IsComponent, Settings.fileName]
  obtain ⟨component, noNull, notSettings⟩ := known name member
  exact
    { files := rfl
      atRoot := rfl
      distinct := by simp
      components := by simpa using ⟨component, noNull⟩
      leaves := by simp [Node.isDirectory]
      noSettings := by simpa using Ne.symm notSettings }

theorem one_file_collected (name : String) (member : name ∈ twoNames) :
    ((oneFile name).collectFacts (Path.ofLocation [])
      { englishArguments.factsRequest with
        settings := some (Settings.default (Path.ofLocation [])) }).outcome =
        .ok (.ofSheet (oneFileSheet name)) := by
  have byDefault : ∀ name ∈ twoNames,
      ((oneFile name).collectFacts (Path.ofLocation [])
        { englishArguments.factsRequest with
          settings := some (Settings.default (Path.ofLocation [])) }).outcome.toOption =
        some (.ofSheet (oneFileSheet name)) := by
    decide +kernel
  exact (to_option_some_iff _ _).mp (byDefault name member)

theorem one_file_document (name : String) (member : name ∈ twoNames) :
    ((oneFile name).describe englishArguments).outcome =
      .ok (fullDocument (oneFileSheet name)) :=
  (one_file_flat name member).document englishArguments rfl _ (one_file_collected name member)

theorem plain_name_keeps_headings :
    ∃ sheet, ((oneFile "app.js").describe englishArguments).outcome = .ok (fullDocument sheet) ∧
      sheet.Plain ∧ ∀ kind, ShowsHeading (fullDocument sheet) (headingLine .english kind) := by
  have plain : (oneFileSheet "app.js").Plain :=
    { name := by decide
      features := by decide
      scripts := by decide
      listing := by decide
      routes := by decide
      dependencies := by decide }
  have described := one_file_document "app.js" (by decide)
  obtain ⟨sheet, collected, sameText, -, shows⟩ :=
    described_headings (oneFile "app.js") englishArguments _ rfl described
  have byDefault := one_file_collected "app.js" (by decide)
  rw [← (one_file_flat "app.js" (by decide)).facts] at byDefault
  have same : oneFileSheet "app.js" = sheet :=
    WideFacts.of_sheet_injective (Except.ok.inj (byDefault.symm.trans collected))
  rw [← same] at shows
  exact ⟨_, described, plain, shows plain⟩

/-- A listing that ends with a fence marker hides the heading of the last section: no part above it
has that heading, and no part below the listing closes the fence. -/
theorem marker_listing_hides (language : Language) (known : language ∈ Language.all) :
    standsUnfenced (headingLine language .license) none
      (Tidy.textLines (shownLines (leadDraft (oneFileSheet "```")) ++
        DocumentSection.all.flatMap fun kind =>
          shownLines (sectionDraft (oneFileSheet "```") kind))) = false := by
  have lead : ∀ language ∈ Language.all, Hides (headingLine language .license) none
      (leadDraft (oneFileSheet "```")) none := by
    decide +kernel
  have listing : ∀ language ∈ Language.all, Hides (headingLine language .license) none
      (sectionDraft (oneFileSheet "```") .listing) (some codeFence) := by
    decide +kernel
  have above (kind : DocumentSection)
      (isAbove : kind ∈ [.intro, .features, .quickstart, .scripts]) :
      ∀ language ∈ Language.all, Hides (headingLine language .license) none
        (sectionDraft (oneFileSheet "```") kind) none := by
    simp only [List.mem_cons, List.not_mem_nil, or_false] at isAbove
    rcases isAbove with rfl | rfl | rfl | rfl <;> decide +kernel
  have below (kind : DocumentSection) (isBelow : kind ∈ [.api, .environment, .stack, .license]) :
      ∀ language ∈ Language.all, Hides (headingLine language .license) (some codeFence)
        (sectionDraft (oneFileSheet "```") kind) (some codeFence) := by
    simp only [List.mem_cons, List.not_mem_nil, or_false] at isBelow
    rcases isBelow with rfl | rfl | rfl | rfl <;> decide +kernel
  generalize oneFileSheet "```" = sheet at *
  have parts : (DocumentSection.all.flatMap fun kind => shownLines (sectionDraft sheet kind)) =
      ([.intro, .features, .quickstart, .scripts].map (sectionDraft sheet)).flatMap shownLines ++
        (shownLines (sectionDraft sheet .listing) ++
          (([.api, .environment, .stack, .license].map (sectionDraft sheet)).flatMap shownLines
            ++ [])) := by
    simp [DocumentSection.all]
  rw [parts]
  apply hidden_after _ _ _ _ _ (lead language known)
  apply hidden_after_parts _ _ _ _
    (List.forall_mem_map.mpr fun kind isAbove => above kind isAbove language known)
  apply hidden_after _ _ _ _ _ (listing language known)
  exact hidden_after_parts _ _ _ _
    (List.forall_mem_map.mpr fun kind isBelow => below kind isBelow language known) rfl

/-- A file whose name is a fence marker swallows the last heading. -/
theorem marker_name_swallows_heading :
    englishArguments.description.getD "" = "" ∧
      ∃ text, ((oneFile "```").describe englishArguments).outcome = .ok text ∧
        ∀ language, ¬ ShowsHeading text (headingLine language .license) := by
  refine ⟨rfl, _, one_file_document "```" (by decide), ?_⟩
  intro language shows
  have known : language ∈ Language.all := by
    cases language <;> decide
  have notBlank : headingLine language .license ≠ [] := by
    cases language <;> decide
  have stands := shown_heading_stands (oneFileSheet "```") rfl _ notBlank shows
  rw [marker_listing_hides language known] at stands
  exact absurd stands (by decide)

end Workspace

end ReadmePress
