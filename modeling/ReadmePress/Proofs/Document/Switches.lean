import ReadmePress.Proofs.Document.FixedLayout

/-!
The switches of the badges and of the table of contents. Each stands for one block of the full
document, and without the block everything above and below it is as it is with the block, even
where a name of several lines leaves a code fence open above it: the lines of a block are no
markers, and where they stand tidying keeps them whether a fence is open or not.
-/

namespace ReadmePress

open ReadmePress.Text

namespace Tidy

theorem fence_after_texts (fence : Option Fence) (lines : List (List Char))
    (noMarker : ∀ line ∈ lines, marker? line = none) : lines.foldl fenceAfter fence = fence := by
  induction lines with
  | nil => rfl
  | cons line rest induction =>
      obtain ⟨here, later⟩ := List.forall_mem_cons.mp noMarker
      rw [List.foldl_cons, fence_after_text fence line here, induction later]

/-- Lines that can be left out: they hold no marker, tidying keeps them where no fence is open, and
they end as the lines above them do. -/
structure OptionalBlock (afterText : Bool) (lines : List (List Char)) : Prop where
  settled : Settled none afterText lines
  noMarker : ∀ line ∈ lines, marker? line = none
  ends : endsInText afterText lines = afterText

theorem optional_block_nil (afterText : Bool) : OptionalBlock afterText [] :=
  ⟨trivial, by simp, rfl⟩

theorem optional_block_of_settled (lines : List (List Char)) (block : SettledBlock lines)
    (noMarker : ∀ line ∈ lines, marker? line = none) : OptionalBlock true lines :=
  ⟨block.settled, noMarker, block.ends⟩

/-- Whether a fence is open or not, tidying keeps an optional block, and makes the same of the
lines below with it and without it. -/
theorem tidy_over_optional_block (fence : Option Fence) (afterText : Bool)
    (lines below : List (List Char)) (block : OptionalBlock afterText lines) :
    tidyLines fence afterText (lines ++ below) = lines ++ tidyLines fence afterText below := by
  have settled : Settled fence afterText lines := by
    cases fence with
    | none => exact block.settled
    | some opener =>
        exact (settled_in_fence opener afterText lines fun line member =>
          fence_after_text (some opener) line (block.noMarker line member)).1
  rw [tidy_lines_append, tidy_lines_of_settled fence afterText lines settled,
    fence_after_texts fence lines block.noMarker, block.ends]

theorem tidy_over_prose (fence : Option Fence) (line : List Char) (below : List (List Char))
    (prose : ProseLine line) :
    tidyLines fence false (line :: below) = line :: tidyLines fence true below := by
  have text : (!line.isEmpty) = true := by simpa using prose.text
  rw [tidy_lines_cons, tidy_line_of_kept fence false line fun _ => text_is_kept line prose.text,
    fence_after_text fence line prose.noMarker, text]
  rfl

theorem tidy_over_blank (above below : List (List Char)) :
    tidyLines none false (above ++ [] :: below) =
      tidyLines none false (above ++ [[]]) ++ tidyLines (openFence above) false below := by
  have lines : above ++ [] :: below = (above ++ [[]]) ++ below := by simp
  rw [lines, tidy_lines_append, ← openFence, open_fence_concat, fence_after_blank,
    ends_in_text_concat]
  rfl

end Tidy

section Blocks

/-- Lines of a document, each ended by a line feed, with the description in their slots. -/
def filledText (description : String) (lines : List (List Char)) : String :=
  String.ofList (lines.flatMap fun line => filledLine description line ++ ['\n'])

theorem filled_text_append (description : String) (front back : List (List Char)) :
    filledText description (front ++ back) =
      filledText description front ++ filledText description back := by
  rw [filledText, List.flatMap_append, String.ofList_append]
  rfl

theorem filled_text_lacking (description : String) (lines : List (List Char))
    (lacks : ∀ line ∈ lines, LacksSlot line) :
    filledText description lines = String.ofList (lines.flatMap (· ++ ['\n'])) := by
  rw [filledText]
  apply congrArg String.ofList
  exact List.flatMap_congr fun line member => by rw [fill_lacking _ _ (lacks line member)]

theorem finished_filled_text (draft description : String)
    (notEmpty : Tidy.tidiedLines draft.toList ≠ []) :
    finishDocument draft description =
      filledText description (Tidy.tidiedLines draft.toList) := by
  rw [← String.toList_inj, finished_text, intercalate_ended _ (by simpa using notEmpty),
    List.flatMap_map, filledText, String.toList_ofList]

/-- The lines of the title and the blank line under it. -/
def titleLines (name : String) : List (List Char) :=
  Tidy.tidyLines none false (partLines ("# " ++ name ++ "\n") ++ [[]])

/-- What the document begins with: the title and the blank line under it. -/
def titleText (name description : String) : String := filledText description (titleLines name)

example : titleText "demo" "" = "# demo\n\n" := by decide +kernel

/-- The badges with the blank line under them, where the project has any. -/
def badgesText (labels : BadgeLabels) : String :=
  if labels.line = "" then "" else labels.line ++ "\n\n"

/-- The leading description, or the phrase in its place. -/
def leadingText (sheet : FactSheet) : String :=
  if sheet.description = "" then sheet.options.language.placeholders.description
  else sheet.description

/-- The block of the table of contents: a blank line, the heading and the entries. -/
def contentsText : Language → String
  | .chinese => sectionHeading "目录" ++ listItems tocItems
  | .english => ""

/-- The badges as they follow the blank line under the title. -/
def badgesBelow (sheet : FactSheet) : List (List Char) :=
  if sheet.options.badges = true ∧ sheet.badges ≠ "" then [lineOf sheet.badges, []] else []

theorem badge_ends (labels : BadgeLabels) :
    ∀ badge ∈ labels.badges, badge.toList.getLast? = some ')' := by
  have closed (opening label closing : String) (ends : closing.toList.getLast? = some ')') :
      (BadgeLabels.badge opening label closing).toList.getLast? = some ')' := by
    rw [BadgeLabels.badge, String.toList_append, List.getLast?_append, ends, Option.some_or]
  intro badge member
  simp only [BadgeLabels.badges, List.mem_append, List.mem_map] at member
  rcases member with (⟨label, -, rfl⟩ | ⟨label, -, rfl⟩) | typed
  · exact closed _ _ _ (by decide)
  · exact closed _ _ _ (by decide)
  · split at typed
    · rw [List.mem_singleton.mp typed]
      decide
    · exact absurd typed (by simp)

theorem last_of_words (last : Char) (words : List String)
    (ends : ∀ word ∈ words, word.toList.getLast? = some last) (notEmpty : words ≠ []) :
    (String.intercalate " " words).toList.getLast? = some last := by
  induction words with
  | nil => exact absurd rfl notEmpty
  | cons word more induction =>
      obtain ⟨here, later⟩ := List.forall_mem_cons.mp ends
      cases more with
      | nil => simpa using here
      | cons next others =>
          rw [String.intercalate_cons_cons, String.toList_append, List.getLast?_append,
            induction later (by simp), Option.some_or]

/-- A line of badges has no blank at its end. -/
theorem badge_line_is_trimmed (labels : BadgeLabels) : lineOf labels.line = labels.line.toList := by
  apply Tidy.trim_end_of_last
  intro last isLast
  by_cases nothing : labels.badges = []
  · rw [BadgeLabels.line, nothing] at isLast
    exact absurd isLast (by simp)
  · rw [BadgeLabels.line, last_of_words ')' _ (badge_ends labels) nothing] at isLast
    rw [← Option.some.inj isLast]
    decide

end Blocks

section Document

variable (sheet : FactSheet)

/-- The draft below the heading of the introduction. -/
def draftBelow : String :=
  (descriptionOr sheet.options.language.placeholders.intro sheet ++ "\n") ++ draftAfter sheet

/-- The fence that the title leaves open. -/
def titleFence (name : String) : Option Tidy.Fence :=
  Tidy.openFence (partLines ("# " ++ name ++ "\n"))

/-- The tidied lines below the heading of the introduction. -/
def linesBelow : List (List Char) :=
  Tidy.dropLastBlanks
    (Tidy.tidyLines (titleFence sheet.name) true (Tidy.trimmedLines (draftBelow sheet).toList))

theorem part_lines_badges (line : sheet.badges = "" ∨ isPhrase sheet.badges.toList = true) :
    partLines (badgesDraft sheet) ++ [[]] = [] :: badgesBelow sheet := by
  rw [badgesDraft, badgesBelow]
  by_cases shown : sheet.options.badges = true ∧ sheet.badges ≠ ""
  · have blank : partLines "\n" = [[]] := by decide
    have blankWhole : WholeLines "\n" := whole_lines_line ""
    have phrase := line.resolve_left shown.2
    rw [if_pos (by simpa using shown), if_pos shown, String.append_assoc,
      part_lines_append _ _ blankWhole, blank,
      part_lines_one_line _ (phrase_is_plain _ phrase).oneLine]
    rfl
  · rw [if_neg (by simpa using shown), if_neg shown]
    rfl

/-- The lines of the draft, with each switched block in its place. -/
theorem switched_draft_lines
    (line : sheet.badges = "" ∨ isPhrase sheet.badges.toList = true) :
    Tidy.trimmedLines (fullDraft sheet).toList =
      partLines ("# " ++ sheet.name ++ "\n") ++ [] :: (badgesBelow sheet ++
        (draftedLine sheet.options.language.placeholders.description sheet ::
          (tocLines sheet.options ++ ([] :: headingLine sheet.options.language .intro ::
            Tidy.trimmedLines (draftBelow sheet).toList)))) := by
  have blank : partLines "\n" = [[]] := by decide
  have badges := part_lines_badges sheet line
  have before : partLines (draftBefore sheet) =
      partLines ("# " ++ sheet.name ++ "\n") ++ [] :: badgesBelow sheet := by
    rw [draftBefore, part_lines_append _ "\n"
        (whole_lines_append _ _ (whole_lines_line _) (whole_badges_draft sheet)),
      part_lines_append _ _ (whole_lines_line _), blank, List.append_assoc, badges]
  rw [full_draft_parts, trimmed_lines_append _ _ (whole_draft_before sheet), before,
    trimmed_lines_append _ _ (whole_lines_line _), drafted_part _ _ (by simp [Language.phrases]),
    trimmed_lines_append _ _ (whole_draft_between sheet.options), draftBetween,
    part_lines_append _ _ (whole_toc_draft _), part_lines_toc, heading_part, draftBelow]
  simp only [List.append_assoc, List.cons_append, List.nil_append]

theorem optional_badges (line : sheet.badges = "" ∨ isPhrase sheet.badges.toList = true) :
    Tidy.OptionalBlock false (badgesBelow sheet) := by
  rw [badgesBelow]
  split
  next shown =>
    have prose := phrase_is_prose _ (line.resolve_left shown.2)
    have text : (!(lineOf sheet.badges).isEmpty) = true := by simpa using prose.text
    have settled : Tidy.Settled none false [lineOf sheet.badges, []] := by
      refine ⟨fun _ => Tidy.text_is_kept _ prose.text, fun _ => ?_, trivial⟩
      rw [text]
      exact Tidy.blank_is_kept
    exact ⟨settled, List.forall_mem_cons.mpr ⟨prose.noMarker, by simp [Tidy.marker?]⟩, rfl⟩
  next => exact Tidy.optional_block_nil false

theorem optional_toc (options : DocumentOptions) : Tidy.OptionalBlock true (tocLines options) := by
  have known : ∀ line ∈ [] :: lineOf "## 目录" :: tocItems.map fun item => lineOf ("- " ++ item),
      Tidy.marker? line = none := by
    rw [toc_items_written]
    decide +kernel
  apply Tidy.optional_block_of_settled _ (settled_toc options)
  rw [tocLines]
  split
  · exact known
  · simp

/-- Tidying leaves the switched blocks as they are, and makes the same of the lines above and
below them whether they are there or not. -/
theorem switched_tidied_lines
    (line : sheet.badges = "" ∨ isPhrase sheet.badges.toList = true) :
    Tidy.tidiedLines (fullDraft sheet).toList =
      titleLines sheet.name ++ (badgesBelow sheet ++
        (draftedLine sheet.options.language.placeholders.description sheet ::
          (tocLines sheet.options ++
            ([] :: headingLine sheet.options.language .intro :: linesBelow sheet)))) := by
  have described := drafted_line_is_prose sheet.options.language.placeholders.description sheet
    (by simp [Language.phrases])
  have isHeading := heading_is_heading sheet.options.language .intro
  have heading : Tidy.OptionalBlock true [[], headingLine sheet.options.language .intro] :=
    Tidy.optional_block_of_settled _ (Tidy.settled_block_heading _ isHeading)
      (List.forall_mem_cons.mpr
        ⟨rfl, List.forall_mem_singleton.mpr (Tidy.heading_is_no_marker _ isHeading)⟩)
  have overHeading := Tidy.tidy_over_optional_block (titleFence sheet.name) true _
    (Tidy.trimmedLines (draftBelow sheet).toList) heading
  rw [Tidy.tidiedLines, switched_draft_lines sheet line, Tidy.tidy_over_blank, ← titleFence,
    Tidy.tidy_over_optional_block _ _ _ _ (optional_badges sheet line),
    Tidy.tidy_over_prose _ _ _ described,
    Tidy.tidy_over_optional_block _ _ _ _ (optional_toc sheet.options)]
  have kept := Tidy.drop_last_blanks_append
    (titleLines sheet.name ++ (badgesBelow sheet ++
      (draftedLine sheet.options.language.placeholders.description sheet ::
        (tocLines sheet.options ++ [[]]))))
    (Tidy.tidyLines (titleFence sheet.name) true (Tidy.trimmedLines (draftBelow sheet).toList))
    _ (Tidy.heading_is_text _ isHeading)
  simp only [List.append_assoc, List.cons_append, List.nil_append] at overHeading kept
  rw [overHeading, ← titleLines, kept, linesBelow]

theorem badges_filled (labels : BadgeLabels) (description : String)
    (line : sheet.badges = labels.line) :
    filledText description (badgesBelow sheet) =
      if sheet.options.badges then badgesText labels else "" := by
  by_cases shown : sheet.options.badges = true ∧ labels.line ≠ ""
  · have phrase := (badge_line_is_phrase labels).resolve_left shown.2
    have lacks : LacksSlot labels.line.toList := phrase_lacks_slot _ phrase
    have texts : ∀ line ∈ [labels.line.toList, []], LacksSlot line :=
      List.forall_mem_cons.mpr ⟨lacks, List.forall_mem_singleton.mpr (by decide)⟩
    rw [badgesBelow, line, if_pos shown, badge_line_is_trimmed, filled_text_lacking _ _ texts,
      if_pos shown.1, badgesText, if_neg shown.2, ← String.toList_inj]
    simp
  · rw [badgesBelow, line, if_neg shown, badgesText]
    by_cases asked : sheet.options.badges = true
    · rw [if_pos asked, if_pos (by_contra fun text => shown ⟨asked, text⟩)]
      rfl
    · rw [if_neg asked]
      rfl

theorem contents_filled (options : DocumentOptions) (description : String) :
    filledText description (tocLines options) =
      if options.toc then contentsText options.language else "" := by
  have lacks : ∀ line ∈ tocLines options, LacksSlot line := by
    rw [← part_lines_toc]
    exact part_lines_lack_slot _ (toc_lacks_slot options)
  have written : String.ofList ((([] :: lineOf "## 目录" :: tocItems.map fun item =>
      lineOf ("- " ++ item)) : List (List Char)).flatMap (· ++ ['\n'])) =
        contentsText .chinese := by
    rw [contentsText, toc_items_written]
    decide +kernel
  rw [filled_text_lacking _ _ lacks, tocLines]
  cases options.language with
  | english => simp [contentsText]
  | chinese =>
      cases options.toc with
      | true => exact written
      | false => rfl

theorem described_filled :
    filledText sheet.description
        [draftedLine sheet.options.language.placeholders.description sheet] =
      leadingText sheet ++ "\n" := by
  have phrase : lineOf sheet.options.language.placeholders.description =
      sheet.options.language.placeholders.description.toList := by
    cases sheet.options.language <;> decide
  rw [filledText, List.flatMap_singleton, fill_drafted_line _ _ (by simp [Language.phrases]),
    describedLine, leadingText, ← String.toList_inj]
  split
  · simp [phrase]
  · simp

theorem heading_filled (language : Language) (description : String) :
    filledText description [[], headingLine language .intro] =
      sectionHeading (DocumentSection.intro.title language) := by
  have lacks : ∀ line ∈ [[], headingLine language .intro], LacksSlot line := by
    cases language <;> decide
  rw [filled_text_lacking _ _ lacks]
  cases language <;> decide

/-- The document in its pieces: title, badges, description, contents, the heading of the
introduction, and what stands below it. -/
theorem document_pieces (labels : BadgeLabels) (line : sheet.badges = labels.line) :
    fullDocument sheet =
      titleText sheet.name sheet.description
        ++ (if sheet.options.badges then badgesText labels else "")
        ++ leadingText sheet ++ "\n"
        ++ (if sheet.options.toc then contentsText sheet.options.language else "")
        ++ sectionHeading (DocumentSection.intro.title sheet.options.language)
        ++ filledText sheet.description (linesBelow sheet) := by
  have phrase : sheet.badges = "" ∨ isPhrase sheet.badges.toList = true := by
    rw [line]
    exact badge_line_is_phrase labels
  have tidied := switched_tidied_lines sheet phrase
  have notEmpty : Tidy.tidiedLines (fullDraft sheet).toList ≠ [] := by
    rw [tidied]
    simp
  have described (below : List (List Char)) :
      draftedLine sheet.options.language.placeholders.description sheet :: below =
        [draftedLine sheet.options.language.placeholders.description sheet] ++ below := rfl
  have headed (below : List (List Char)) :
      [] :: headingLine sheet.options.language .intro :: below =
        [[], headingLine sheet.options.language .intro] ++ below := rfl
  rw [fullDocument, finished_filled_text _ _ notEmpty, tidied, described, headed,
    filled_text_append, filled_text_append, filled_text_append, filled_text_append,
    filled_text_append, badges_filled sheet labels _ line, described_filled, contents_filled,
    heading_filled, titleText]
  simp only [String.append_assoc]

/-- The switches of the badges and of the contents tell whether those two blocks are there, and
nothing else of the document. -/
theorem switches_are_local (labels : BadgeLabels) :
    tocItems.length = 9 ∧ ∃ below : String, ∀ badges toc : Bool,
      fullDocument
          { sheet with
            badges := labels.line
            options := { sheet.options with badges := badges, toc := toc } } =
        titleText sheet.name sheet.description
          ++ (if badges then badgesText labels else "")
          ++ leadingText sheet ++ "\n"
          ++ (if toc then contentsText sheet.options.language else "")
          ++ sectionHeading (DocumentSection.intro.title sheet.options.language) ++ below := by
  refine ⟨by rw [toc_items_written]; rfl, filledText sheet.description (linesBelow sheet), ?_⟩
  intro badges toc
  exact document_pieces
    { sheet with
      badges := labels.line
      options := { sheet.options with badges := badges, toc := toc } }
    labels rfl

end Document

end ReadmePress
