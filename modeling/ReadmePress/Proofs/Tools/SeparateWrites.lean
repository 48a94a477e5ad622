import ReadmePress.Proofs.FileSystem.PlainWriting
import ReadmePress.Proofs.Tools.ConfirmedWrite

/-!
Two writings whose files are not in each other's way. Both may make the same directories, and each
may fail after it has made some, but neither takes anything away that the other one asks for. So
each succeeds before the other exactly when it succeeds after it, and the tree after both does not
tell their order.
-/

namespace ReadmePress

open ReadmePress.Text

/-- Neither place is above the other, and they differ. -/
structure Apart (first second : Location) : Prop where
  notBefore : ¬ first <+: second
  notAfter : ¬ second <+: first

theorem Apart.symm {first second : Location} (apart : Apart first second) : Apart second first :=
  ⟨apart.notAfter, apart.notBefore⟩

namespace Node

theorem link_free_file (content : List UInt8) : (Node.file content).IsLinkFree := by
  intro location target
  cases location <;> simp [entryAt?, node?, entry]

theorem link_free_directory (entries : List (String × Node))
    (below : ∀ entry ∈ entries, entry.2.IsLinkFree) : (Node.directory entries).IsLinkFree := by
  intro location target
  cases location with
  | nil => simp [entry]
  | cons name rest =>
      rw [entry_at_below]
      cases present : OrderedMap.find? entries name with
      | none => simp
      | some child =>
          exact below (name, child) (OrderedMap.mem_of_find entries name child present) rest target

end Node

namespace Workspace

namespace Draws

variable {workspace : Workspace} {path other : Path} {content : List UInt8} {after : Node}
  (draws : workspace.Draws path content after)
include draws

theorem putsNoLink : workspace.files.PutsNoLink after := by
  intro location
  by_cases opens : workspace.OpensWay path location
  · exact Or.inr (Or.inl (draws.directory location opens))
  · by_cases isFile : workspace.CanWrite path ∧ location = workspace.placeOf path
    · rw [isFile.2]
      exact Or.inr (Or.inr ⟨content, draws.file isFile.1⟩)
    · exact Or.inl (draws.same location opens (not_and.mp isFile))

/-- Apart from the file, no place comes to stand in the way of a directory, or stops to. -/
theorem clear_iff (location : Location) (elsewhere : location ≠ workspace.placeOf path) :
    after.IsClear location ↔ workspace.files.IsClear location := by
  by_cases opens : workspace.OpensWay path location
  · exact iff_of_true (Or.inr (draws.directory location opens)) opens.2.clear
  · rw [Node.IsClear, draws.same location opens fun _ => elsewhere, Node.IsClear]

theorem admits_iff (notBefore : ¬ workspace.placeOf path <+: workspace.placeOf other)
    (way : List String) (onWay : way <+: other.components) :
    after.Admits (workspace.startOf other.isAbsolute) way ↔
      workspace.files.Admits (workspace.startOf other.isAbsolute) way := by
  apply Node.admits_congr
  intro part starts
  apply draws.clear_iff
  rintro isPlace
  apply notBefore
  rw [← isPlace]
  exact (List.prefix_append_right_inj _).mpr (starts.trans onWay)

theorem opens_way_iff (notBefore : ¬ workspace.placeOf path <+: workspace.placeOf other)
    (location : Location) :
    (workspace.withFiles after).OpensWay other location ↔ workspace.OpensWay other location := by
  apply and_congr_right'
  apply exists_congr
  intro way
  apply and_congr_right
  intro starts
  exact and_congr_right' (draws.admits_iff notBefore way (starts.trans (List.dropLast_prefix _)))

theorem can_write_iff (apart : Apart (workspace.placeOf path) (workspace.placeOf other)) :
    (workspace.withFiles after).CanWrite other ↔ workspace.CanWrite other := by
  apply and_congr (draws.admits_iff apart.notBefore _ (List.dropLast_prefix _))
  apply workspace.accepts_congr other after
  intro _
  apply draws.same
  · exact fun opens => apart.notAfter (workspace.opens_above path _ opens)
  · exact fun _ isPlace => apart.notAfter (isPlace ▸ List.prefix_refl _)

end Draws

variable (workspace : Workspace) (first second : Path) (firstContent secondContent : List UInt8)

/-- The tree after a writing to each of two paths, told by the tree before both. -/
structure DrawsBoth (after : Node) : Prop where
  firstFile : workspace.CanWrite first →
    after.entryAt? (workspace.placeOf first) = some (.file firstContent)
  secondFile : workspace.CanWrite second →
    after.entryAt? (workspace.placeOf second) = some (.file secondContent)
  directory : ∀ location, workspace.OpensWay first location ∨ workspace.OpensWay second location →
    after.entryAt? location = some .directory
  same : ∀ location,
    ¬ (workspace.OpensWay first location ∨ workspace.OpensWay second location) →
    (workspace.CanWrite first → location ≠ workspace.placeOf first) →
    (workspace.CanWrite second → location ≠ workspace.placeOf second) →
      after.entryAt? location = workspace.files.entryAt? location

variable {workspace first second firstContent secondContent}

theorem DrawsBoth.symm {after : Node}
    (both : workspace.DrawsBoth first second firstContent secondContent after) :
    workspace.DrawsBoth second first secondContent firstContent after where
  firstFile := both.secondFile
  secondFile := both.firstFile
  directory location opens := both.directory location opens.symm
  same location unopened notFirst notSecond :=
    both.same location (unopened ∘ Or.symm) notSecond notFirst

theorem draws_both {between after : Node}
    (apart : Apart (workspace.placeOf first) (workspace.placeOf second))
    (drawsFirst : workspace.Draws first firstContent between)
    (drawsSecond : (workspace.withFiles between).Draws second secondContent after) :
    workspace.DrawsBoth first second firstContent secondContent after := by
  have opens := drawsFirst.opens_way_iff apart.notBefore
  have can := drawsFirst.can_write_iff apart
  -- The second writing leaves alone what is not on its way.
  have kept : ∀ location, ¬ workspace.OpensWay second location →
      (workspace.CanWrite second → location ≠ workspace.placeOf second) →
        after.entryAt? location = between.entryAt? location := fun location unopened notPlace =>
    drawsSecond.same location (unopened ∘ (opens location).mp) (notPlace ∘ can.mp)
  refine ⟨?_, fun canSecond => drawsSecond.file (can.mpr canSecond), ?_, ?_⟩
  · intro canFirst
    rw [kept]
    · exact drawsFirst.file canFirst
    · exact fun onWay => apart.notBefore (workspace.opens_above second _ onWay)
    · exact fun _ isPlace => apart.notBefore (isPlace ▸ List.prefix_refl _)
  · intro location onWay
    by_cases onSecond : workspace.OpensWay second location
    · exact drawsSecond.directory location ((opens location).mpr onSecond)
    · have onFirst := onWay.resolve_right onSecond
      rw [kept location onSecond]
      · exact drawsFirst.directory location onFirst
      · rintro - rfl
        exact apart.notAfter (workspace.opens_above first _ onFirst)
  · intro location unopened notFirst notSecond
    rw [kept location (unopened ∘ Or.inr) notSecond]
    exact drawsFirst.same location (unopened ∘ Or.inl) notFirst

theorem DrawsBoth.unique {after others : Node}
    (both : workspace.DrawsBoth first second firstContent secondContent after)
    (bothOthers : workspace.DrawsBoth first second firstContent secondContent others)
    (location : Location) : after.entryAt? location = others.entryAt? location := by
  by_cases opens : workspace.OpensWay first location ∨ workspace.OpensWay second location
  · rw [both.directory location opens, bothOthers.directory location opens]
  by_cases isFirst : workspace.CanWrite first ∧ location = workspace.placeOf first
  · rw [isFirst.2, both.firstFile isFirst.1, bothOthers.firstFile isFirst.1]
  by_cases isSecond : workspace.CanWrite second ∧ location = workspace.placeOf second
  · rw [isSecond.2, both.secondFile isSecond.1, bothOthers.secondFile isSecond.1]
  rw [both.same location opens (not_and.mp isFirst) (not_and.mp isSecond),
    bothOthers.same location opens (not_and.mp isFirst) (not_and.mp isSecond)]

/-- Texts written to places apart: each is written or refused alike before and after the other, the
same stands everywhere in the end, and what has been written first has been left alone. -/
theorem write_texts_apart (firstText secondText : String)
    (plainFirst : workspace.LeadsPlainly first) (plainSecond : workspace.LeadsPlainly second)
    (apart : Apart (workspace.placeOf first) (workspace.placeOf second)) :
    let firstAlone := workspace.writeText first firstText
    let secondAlone := workspace.writeText second secondText
    let firstLast := (workspace.withFiles secondAlone.files).writeText first firstText
    let secondLast := (workspace.withFiles firstAlone.files).writeText second secondText
    ((∃ size, firstAlone.outcome = .ok size) ↔ ∃ size, firstLast.outcome = .ok size) ∧
      ((∃ size, secondAlone.outcome = .ok size) ↔ ∃ size, secondLast.outcome = .ok size) ∧
      (∀ location, secondLast.files.entryAt? location = firstLast.files.entryAt? location) ∧
      ((∃ size, firstAlone.outcome = .ok size) →
        secondLast.files.entryAt? (workspace.placeOf first) =
          some (.file (encodeUtf8 firstText.toList))) ∧
      ((∃ size, secondAlone.outcome = .ok size) →
        secondLast.files.entryAt? (workspace.placeOf second) =
          some (.file (encodeUtf8 secondText.toList))) := by
  intro firstAlone secondAlone firstLast secondLast
  obtain ⟨firstWrites, drawsFirst⟩ := workspace.write_text_plain first firstText plainFirst
  obtain ⟨secondWrites, drawsSecond⟩ := workspace.write_text_plain second secondText plainSecond
  obtain ⟨firstWritesLast, drawsFirstLast⟩ :=
    write_text_plain _ first firstText (plainFirst.further _ drawsSecond.putsNoLink)
  obtain ⟨secondWritesLast, drawsSecondLast⟩ :=
    write_text_plain _ second secondText (plainSecond.further _ drawsFirst.putsNoLink)
  have both := draws_both apart drawsFirst drawsSecondLast
  have bothTurned := (draws_both apart.symm drawsSecond drawsFirstLast).symm
  refine ⟨?_, ?_, both.unique bothTurned, ?_, ?_⟩
  · exact firstWrites.trans ((drawsSecond.can_write_iff apart.symm).symm.trans firstWritesLast.symm)
  · exact secondWrites.trans ((drawsFirst.can_write_iff apart).symm.trans secondWritesLast.symm)
  · exact fun written => both.firstFile (firstWrites.mp written)
  · exact fun written => both.secondFile (secondWrites.mp written)

/-- Single dots and empty names are gone once a path has been read. -/
theorem read_names (path name : String) (member : name ∈ (Path.ofString path).components) :
    name ≠ "" ∧ name ≠ "." := by
  simpa using (List.mem_filter.mp member).2

variable (workspace) (directory : Path)

theorem start_stands (path : Path)
    (stands : path.isAbsolute = true ∨
      workspace.files.entryAt? workspace.workingDirectory = some .directory) :
    workspace.files.entryAt? (workspace.startOf path.isAbsolute) ≠ none := by
  cases isRoot : path.isAbsolute with
  | true => simp [startOf]
  | false =>
      have isDirectory := stands.resolve_left (by simp [isRoot])
      simp [startOf, isDirectory]

/-- The target of a writing is followed name by name if there are no double dots in it. -/
theorem target_leads_plainly (path : String) (linkFree : workspace.files.IsLinkFree)
    (normal : "." ∉ directory.components)
    (stands : directory.isAbsolute = true ∨
      workspace.files.entryAt? workspace.workingDirectory = some .directory)
    (noDots : ".." ∉ workspace.placeOf (writingTarget directory path)) :
    workspace.LeadsPlainly (writingTarget directory path) := by
  have notDots : ∀ name ∈ (writingTarget directory path).components, name ≠ ".." := by
    rintro name member rfl
    exact noDots (List.mem_append_right _ member)
  by_cases fromRoot : (Path.ofString path).isAbsolute = true
  · have isTarget : writingTarget directory path = Path.ofString path := if_pos fromRoot
    rw [isTarget] at notDots ⊢
    exact
      { linkFree := linkFree
        names := fun name member => ⟨(read_names path name member).2, notDots name member⟩
        starts := workspace.start_stands _ (Or.inl fromRoot) }
  · have isTarget : writingTarget directory path =
        { root := directory.root
          components := directory.components ++ (Path.ofString path).components } :=
      (if_neg fromRoot).trans (if_neg fromRoot)
    rw [isTarget] at notDots ⊢
    refine { linkFree := linkFree, names := ?_, starts := ?_ }
    · intro name member
      refine ⟨?_, notDots name member⟩
      rcases List.mem_append.mp member with inDirectory | inPath
      · rintro rfl
        exact normal inDirectory
      · exact (read_names path name inPath).2
    · exact workspace.start_stands directory stands

theorem confirmed_succeeds_iff (path content : String) :
    (∃ report, (workspace.writeFile directory
        { path, content, confirm := true }).traced.outcome = .ok report) ↔
      ∃ size, (workspace.writeText (writingTarget directory path) content).outcome = .ok size := by
  rw [confirmed_write_outcome]
  cases (workspace.writeText (writingTarget directory path) content).outcome with
  | error fault => simp
  | ok size => simp

/-- Confirmed writings to places apart commute in a tree without links: each one succeeds before
the other exactly when it succeeds after it, and whether they succeed or fail, the tree is the same
after both, with what has been written in it. The directory has no single dots, as no path has that
has been read, and a relative one is taken from a working directory that exists; one leading slash
or two lead to the root. -/
theorem separate_writes_commute (first second : WriteArguments)
    (confirmed : first.confirm = true ∧ second.confirm = true)
    (linkFree : workspace.files.IsLinkFree) (normal : "." ∉ directory.components)
    (stands : directory.isAbsolute = true ∨
      workspace.files.entryAt? workspace.workingDirectory = some .directory)
    (noDots : ".." ∉ workspace.placeOf (writingTarget directory first.path) ∧
      ".." ∉ workspace.placeOf (writingTarget directory second.path))
    (apart : Apart (workspace.placeOf (writingTarget directory first.path))
      (workspace.placeOf (writingTarget directory second.path))) :
    let firstAlone := workspace.writeFile directory first
    let secondAlone := workspace.writeFile directory second
    let firstLast := (workspace.withFiles secondAlone.files).writeFile directory first
    let secondLast := (workspace.withFiles firstAlone.files).writeFile directory second
    ((∃ report, firstAlone.traced.outcome = .ok report) ↔
        ∃ report, firstLast.traced.outcome = .ok report) ∧
      ((∃ report, secondAlone.traced.outcome = .ok report) ↔
        ∃ report, secondLast.traced.outcome = .ok report) ∧
      (∀ location, secondLast.files.entryAt? location = firstLast.files.entryAt? location) ∧
      ((∃ report, firstAlone.traced.outcome = .ok report) →
        secondLast.files.entryAt? (workspace.placeOf (writingTarget directory first.path)) =
          some (.file first.content.toUTF8.data.toList)) ∧
      ((∃ report, secondAlone.traced.outcome = .ok report) →
        secondLast.files.entryAt? (workspace.placeOf (writingTarget directory second.path)) =
          some (.file second.content.toUTF8.data.toList)) := by
  obtain ⟨firstPath, firstText, firstConfirm⟩ := first
  obtain ⟨secondPath, secondText, secondConfirm⟩ := second
  obtain ⟨rfl, rfl⟩ := confirmed
  simp only [confirmed_succeeds_iff, confirmed_write_files, ← encode_eq_bytes]
  exact write_texts_apart firstText secondText
    (workspace.target_leads_plainly directory firstPath linkFree normal stands noDots.1)
    (workspace.target_leads_plainly directory secondPath linkFree normal stands noDots.2) apart

/-- A tree with one empty file. -/
def smallTree : Workspace :=
  { files := .directory [("a", .file [])], workingDirectory := [], home := "/", accounts := [] }

/-- Both writings make one directory. -/
theorem nested_writes_commute :
    let directory := Path.ofLocation []
    let first : WriteArguments := { path := "d/e/f", content := "1", confirm := true }
    let second : WriteArguments := { path := "d/g", content := "2", confirm := true }
    let firstPlace := smallTree.placeOf (writingTarget directory first.path)
    let secondPlace := smallTree.placeOf (writingTarget directory second.path)
    (first.confirm = true ∧ second.confirm = true) ∧ smallTree.files.IsLinkFree ∧
      "." ∉ directory.components ∧ directory.isAbsolute = true ∧
      (".." ∉ firstPlace ∧ ".." ∉ secondPlace) ∧ Apart firstPlace secondPlace ∧
      (∃ report, (smallTree.writeFile directory first).traced.outcome = .ok report) ∧
      ((smallTree.withFiles (smallTree.writeFile directory first).files).writeFile directory
        second).files.entryAt? firstPlace = some (.file "1".toUTF8.data.toList) ∧
      ∀ location,
        ((smallTree.withFiles (smallTree.writeFile directory first).files).writeFile directory
            second).files.entryAt? location =
          ((smallTree.withFiles (smallTree.writeFile directory second).files).writeFile directory
            first).files.entryAt? location := by
  intro directory first second firstPlace secondPlace
  have linkFree : smallTree.files.IsLinkFree := by
    apply Node.link_free_directory
    simpa using Node.link_free_file []
  have noDots : ".." ∉ firstPlace ∧ ".." ∉ secondPlace := by decide +kernel
  have apart : Apart firstPlace secondPlace := ⟨by decide +kernel, by decide +kernel⟩
  obtain ⟨-, -, same, left, -⟩ := smallTree.separate_writes_commute directory first second
    ⟨rfl, rfl⟩ linkFree (by decide) (Or.inl rfl) noDots apart
  have written : ∃ report, (smallTree.writeFile directory first).traced.outcome = .ok report :=
    (smallTree.confirmed_succeeds_iff directory "d/e/f" "1").mpr ⟨1, by decide +kernel⟩
  exact ⟨⟨rfl, rfl⟩, linkFree, by decide, rfl, noDots, apart, written, left written, same⟩

end Workspace

end ReadmePress
