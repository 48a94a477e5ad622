import ReadmePress.Proofs.Document.FixedLayout
import ReadmePress.Proofs.Document.ProjectHeadings
import ReadmePress.Proofs.Facts.FactFiles
import ReadmePress.Proofs.FileSystem.Overwriting
import ReadmePress.Proofs.Tools.ConfirmedWrite

/-!
Generating a document and writing it to a file, again and again. The first writing may change
what is listed and which badges are shown, and with it the document; from then on only the
content of the written file changes, so every later run writes the same text, unless the
document is drawn from that very file.
-/

namespace ReadmePress

open ReadmePress.Text

namespace Workspace

/-- A run that generates a document and writes it to a path. -/
structure Regenerates (before : Workspace) (base : Path) (arguments : FullArguments)
    (path text : String) (after : Workspace) : Prop where
  described : (before.describe arguments).outcome = .ok text
  written : ∃ report,
    (before.writeFile base { path, content := text, confirm := true }).traced.outcome = .ok report
  leaves : after =
    before.withFiles (before.writeFile base { path, content := text, confirm := true }).files

/-- What a run writes and leaves is told by where it starts. -/
theorem run_unique (before after last : Workspace) (base : Path) (arguments : FullArguments)
    (path text other : String) (run : before.Regenerates base arguments path text after)
    (otherRun : before.Regenerates base arguments path other last) :
    other = text ∧ last = after := by
  have sameText : other = text := Except.ok.inj (otherRun.described.symm.trans run.described)
  refine ⟨sameText, ?_⟩
  rw [run.leaves, otherRun.leaves, sameText]

theorem written_by_run (before after : Workspace) (base : Path) (arguments : FullArguments)
    (path text : String) (run : before.Regenerates base arguments path text after) :
    (∃ size, (before.writeText (writingTarget base path) text).outcome = .ok size) ∧
      after = before.withFiles (before.writeText (writingTarget base path) text).files := by
  obtain ⟨report, written⟩ := run.written
  rw [confirmed_write_outcome] at written
  refine ⟨?_, run.leaves⟩
  cases outcome : (before.writeText (writingTarget base path) text).outcome with
  | ok size => exact ⟨size, rfl⟩
  | error fault =>
      rw [outcome] at written
      exact absurd written (by simp)

/-- Overwriting a file keeps the facts where the document is not drawn from it. -/
theorem keeps_facts_of_overwriting (workspace : Workspace) (directory : Path)
    (location : Location) (previous content : List UInt8)
    (found : workspace.files.node? location = some (.file previous))
    (apart : ¬ workspace.IsFactFile directory location) :
    workspace.KeepsFacts directory (workspace.files.put location (.file content)) := by
  have isFile := (Node.entry_at_eq_file_iff _ _ _).mpr found
  obtain ⟨-, changed⟩ := Node.kept_of_put_file workspace.files location content
    (Node.room_of_found _ _ _ isFile) (Or.inr ⟨previous, isFile⟩)
  constructor
  case shape => exact Node.emptied_put workspace.files _ _ location found rfl
  case contents =>
    intro other isFact
    rw [changed, if_neg]
    intro same
    apply apart
    rwa [← same]

theorem regenerates_over (workspace : Workspace) (base : Path) (arguments : FullArguments)
    (path text : String) (location : Location)
    (described : (workspace.describe arguments).outcome = .ok text)
    (overwritable : workspace.Overwritable (writingTarget base path) location) :
    workspace.Regenerates base arguments path text
      (workspace.withFiles (workspace.files.put location (.file (encodeUtf8 text.toList)))) := by
  have overwritten := write_text_over workspace (writingTarget base path) location overwritable text
  constructor
  case described => exact described
  case written =>
    refine ⟨writtenReport (writingTarget base path) (encodeUtf8 text.toList).length, ?_⟩
    rw [confirmed_write_outcome, overwritten]
  case leaves => rw [confirmed_write_files, overwritten]

/-- A run over a file that the document is not drawn from leaves the document as it was, and the
path ready for another run. -/
theorem overwriting_run (workspace : Workspace) (base : Path) (arguments : FullArguments)
    (path text : String) (location : Location)
    (described : (workspace.describe arguments).outcome = .ok text)
    (overwritable : workspace.Overwritable (writingTarget base path) location)
    (apart : ¬ workspace.IsFactFile (workspace.directoryOr arguments.directory) location) :
    ∃ after, workspace.Regenerates base arguments path text after ∧
      (after.describe arguments).outcome = .ok text ∧
      after.Overwritable (writingTarget base path) location ∧
      after.files.node? location = some (.file (encodeUtf8 text.toList)) ∧
      ¬ after.IsFactFile (after.directoryOr arguments.directory) location := by
  obtain ⟨previous, found⟩ := overwritable.isFile
  have run := regenerates_over workspace base arguments path text location described overwritable
  have keeps := keeps_facts_of_overwriting workspace (workspace.directoryOr arguments.directory)
    location previous (encodeUtf8 text.toList) found apart
  have refills := refills_of_existing workspace (writingTarget base path)
    (encodeUtf8 text.toList) previous location overwritable.leads found
  obtain ⟨overwritableAgain, holds⟩ := overwritable_of_refills workspace (writingTarget base path)
    _ _ location overwritable.directory refills
  rw [← describe_same workspace arguments _ keeps] at described
  exact ⟨_, run, described, overwritableAgain, holds,
    mt (fact_file_of_shape workspace _ _ keeps.shape location) apart⟩

/-- Where the document is written in the file already, a run leaves everything as it is. -/
theorem regenerates_same (workspace : Workspace) (base : Path) (arguments : FullArguments)
    (path text : String) (location : Location)
    (described : (workspace.describe arguments).outcome = .ok text)
    (overwritable : workspace.Overwritable (writingTarget base path) location)
    (holds : workspace.files.node? location = some (.file (encodeUtf8 text.toList))) :
    workspace.Regenerates base arguments path text workspace := by
  have run := regenerates_over workspace base arguments path text location described overwritable
  rwa [Node.put_again workspace.files _ location holds] at run

/-- After two runs every further run writes the same text again and leaves the same tree, unless
the document is drawn from the written file. -/
theorem regeneration_stabilises (first second third : Workspace) (base : Path)
    (arguments : FullArguments) (path firstText secondText : String)
    (firstRun : first.Regenerates base arguments path firstText second)
    (secondRun : second.Regenerates base arguments path secondText third)
    (apart : ∀ location,
      second.arrive true (writingTarget base path) = .ok (.existing location) →
        ¬ second.IsFactFile (second.directoryOr arguments.directory) location) :
    third.Regenerates base arguments path secondText third ∧
      ∀ text last, third.Regenerates base arguments path text last →
        text = secondText ∧ last = third := by
  obtain ⟨⟨size, done⟩, leavesSecond⟩ := written_by_run first second _ _ _ _ firstRun
  obtain ⟨location, overwritable, -⟩ := overwritable_of_written first _ firstText size done
  rw [← leavesSecond] at overwritable
  obtain ⟨after, run, described, overwritableAgain, holds, -⟩ := overwriting_run second base
    arguments path secondText location secondRun.described overwritable
    (apart location overwritable.leads)
  obtain ⟨-, rfl⟩ := run_unique second third after _ _ _ _ _ secondRun run
  have again := regenerates_same after base arguments path secondText location described
    overwritableAgain holds
  exact ⟨again, fun text last next => run_unique after after last _ _ _ _ _ again next⟩

/-- A sheet of a name and a listing is laid out line by line. -/
theorem listing_sheet_lines (listing : String) (block : BlockText listing) :
    linesOf (fullDocument (oneFileSheet listing)) =
      documentLines (oneFileSheet listing) ++ [[]] := by
  have inline : (oneFileSheet listing).Inline :=
    { name := (by decide : InlineText "demo")
      description := List.not_mem_nil
      badges := ⟨{ license := none, node := none, typescript := false }, rfl⟩
      features _ member := absurd member List.not_mem_nil
      scripts _ member := absurd member List.not_mem_nil
      listing := block
      routes _ member := absurd member List.not_mem_nil
      environmentKeys _ member := absurd member List.not_mem_nil
      dependencies _ member := absurd member List.not_mem_nil
      distinct := List.nodup_nil }
  rw [full_document_filled _ inline, fill_drafted_lines _ inline]

/-- A project of one source file after a document has been written beside it. -/
def withDocument (content : List UInt8) : Workspace :=
  (oneFile "app.js").withFiles (.directory [("app.js", .file []), ("README.md", .file content)])

theorem with_document_flat :
    (withDocument []).IsFlat [("app.js", .file []), ("README.md", .file [])] where
  files := rfl
  atRoot := rfl
  distinct := by simp
  components := by simp [IsComponent]
  leaves := by simp [Node.isDirectory]
  noSettings := by simp [Settings.fileName]

/-- The written file is none that the document is drawn from. -/
theorem document_is_no_fact :
    ¬ (withDocument []).IsFactFile (Path.ofLocation []) ["README.md"] := by
  have elsewhere : ∀ name ∈
      [Manifest.fileName, Settings.fileName, EnvironmentKey.sampleFileName, "app.js"],
      (withDocument []).arrive true (Path.ofLocation [name]) ≠ .ok (.existing ["README.md"]) := by
    decide +kernel
  have oneSource : (withDocument []).sourceFiles (Path.ofLocation []) [] = .ok ["app.js"] := by
    decide +kernel
  obtain ⟨settingsPlace, -⟩ := with_document_flat.settings_place
  intro isFact
  cases isFact with
  | manifest leads => exact elsewhere _ (by decide) leads
  | settings file named leads =>
      obtain rfl : Path.ofLocation [Settings.fileName] = file :=
        Except.ok.inj (settingsPlace.leadsToFile.symm.trans named)
      exact elsewhere _ (by decide) leads
  | sample leads => exact elsewhere _ (by decide) leads
  | source paths path scanned listed leads =>
      obtain rfl : ["app.js"] = paths := Except.ok.inj (oneSource.symm.trans scanned)
      rw [List.mem_singleton.mp listed] at leads
      exact elsewhere _ (by decide) leads

theorem written_is_no_fact (content : List UInt8) :
    ¬ (withDocument content).IsFactFile (Path.ofLocation []) ["README.md"] := by
  have same : (withDocument content).files.emptied = (withDocument []).files.emptied := rfl
  exact mt (fact_file_of_shape (withDocument []) _ _ same _) document_is_no_fact

/-- Whatever has been written in it, the file shows in the listing alone. -/
theorem with_document_document (content : List UInt8) :
    ((withDocument content).describe englishArguments).outcome =
      .ok (fullDocument (oneFileSheet "README.md\napp.js")) := by
  have collected : ((withDocument []).collectFacts (Path.ofLocation [])
      { englishArguments.factsRequest with
        settings := some (Settings.default (Path.ofLocation [])) }).outcome.toOption =
        some (.ofSheet (oneFileSheet "README.md\napp.js")) := by
    decide +kernel
  have keeps := keeps_facts_of_overwriting (withDocument []) (Path.ofLocation []) ["README.md"] []
    content rfl document_is_no_fact
  have described : ((withDocument []).describe englishArguments).outcome =
      .ok (fullDocument (oneFileSheet "README.md\napp.js")) :=
    with_document_flat.document englishArguments rfl _ ((to_option_some_iff _ _).mp collected)
  rw [← describe_same (withDocument []) englishArguments _ keeps] at described
  exact described

theorem with_document_overwritable (content : List UInt8) :
    (withDocument content).Overwritable (writingTarget (Path.ofLocation []) "README.md")
      ["README.md"] where
  directory := rfl
  leads := rfl
  isFile := ⟨content, rfl⟩

/-- The first run creates the file. -/
theorem new_document_run :
    (oneFile "app.js").Regenerates (Path.ofLocation []) englishArguments "README.md"
      (fullDocument (oneFileSheet "app.js"))
      (withDocument (encodeUtf8 (fullDocument (oneFileSheet "app.js")).toList)) := by
  have created (text : String) :
      (oneFile "app.js").writeText (writingTarget (Path.ofLocation []) "README.md") text =
        { outcome := .ok (encodeUtf8 text.toList).length
          files := (withDocument (encodeUtf8 text.toList)).files } := rfl
  constructor
  case described => exact one_file_document "app.js" (by decide)
  case written =>
    refine ⟨writtenReport (writingTarget (Path.ofLocation []) "README.md")
      (encodeUtf8 (fullDocument (oneFileSheet "app.js")).toList).length, ?_⟩
    rw [confirmed_write_outcome, created]
  case leaves =>
    rw [confirmed_write_files, created]
    rfl

/-- The document of the first run does not list the file that it is written to. -/
theorem documents_differ :
    fullDocument (oneFileSheet "app.js") ≠ fullDocument (oneFileSheet "README.md\napp.js") := by
  intro same
  have before := listing_sheet_lines "app.js" ⟨by decide, by decide, by decide⟩
  have after := listing_sheet_lines "README.md\napp.js" ⟨by decide, by decide, by decide⟩
  rw [same, after] at before
  have sameLength := congrArg List.length (List.append_cancel_right before)
  exact absurd sameLength (by decide +kernel)

/-- A file that is not there at first: the first run changes the document, the third run changes
nothing. -/
theorem new_document_regeneration_stabilises :
    ∃ firstText secondText second third,
      firstText ≠ secondText ∧
      (oneFile "app.js").Regenerates (Path.ofLocation []) englishArguments "README.md" firstText
        second ∧
      second.Regenerates (Path.ofLocation []) englishArguments "README.md" secondText third ∧
      (∀ location,
        second.arrive true (writingTarget (Path.ofLocation []) "README.md") =
            .ok (.existing location) →
          ¬ second.IsFactFile (second.directoryOr englishArguments.directory) location) ∧
      third.Regenerates (Path.ofLocation []) englishArguments "README.md" secondText third := by
  let content := encodeUtf8 (fullDocument (oneFileSheet "app.js")).toList
  have overwritable := with_document_overwritable content
  have isNoFact := written_is_no_fact content
  obtain ⟨third, secondRun, -⟩ := overwriting_run (withDocument content) (Path.ofLocation [])
    englishArguments "README.md" _ ["README.md"] (with_document_document content) overwritable
    isNoFact
  have apart (location : Location)
      (leads : (withDocument content).arrive true
        (writingTarget (Path.ofLocation []) "README.md") = .ok (.existing location)) :
      ¬ (withDocument content).IsFactFile
        ((withDocument content).directoryOr englishArguments.directory) location := by
    obtain rfl : ["README.md"] = location :=
      Arrival.existing.inj (Except.ok.inj (overwritable.leads.symm.trans leads))
    exact isNoFact
  exact ⟨_, _, withDocument content, third, documents_differ, new_document_run, secondRun, apart,
    (regeneration_stabilises _ _ _ _ _ _ _ _ new_document_run secondRun apart).1⟩

end Workspace

end ReadmePress
