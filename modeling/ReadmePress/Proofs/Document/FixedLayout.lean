import ReadmePress.Proofs.Document.LayoutLines
import ReadmePress.Proofs.Document.SettledBlocks

/-!
The fixed layout of the full document. Where every fact stands in a line of its own and the
listing stays in its code block, the document has the lines of its facts and no others, each in
its section and in its order: the draft is then a block under its title, so tidying leaves it as
it is but for the blanks at the ends of lines.
-/

namespace ReadmePress

open ReadmePress.Text

section Blocks

/-- A text that begins with a plain character and no number sign is a line of prose. -/
theorem line_is_prose (text : String) (first : Char) (starts : text.toList.head? = some first)
    (plain : isPlainStart first = true) (noHeading : first ≠ '#') :
    Tidy.ProseLine (lineOf text) := by
  obtain ⟨rest, characters⟩ := List.head?_eq_some_iff.mp starts
  have notBlank : isBlank first = false := by
    simp only [isPlainStart, Bool.and_eq_true, Bool.not_eq_true'] at plain
    exact plain.1.1
  rw [lineOf, characters, trim_end_start first rest notBlank]
  exact Tidy.prose_of_start first _ plain noHeading

theorem phrase_is_prose (text : String) (phrase : isPhrase text.toList = true) :
    Tidy.ProseLine (lineOf text) := by
  cases characters : text.toList with
  | nil => simp [characters, isPhrase] at phrase
  | cons first rest =>
      simp only [characters, isPhrase, Bool.and_eq_true, bne_iff_ne] at phrase
      exact line_is_prose text first (by simp [characters]) phrase.1.1 phrase.1.2

theorem phrase_of_language_is_prose (language : Language) (phrase : String)
    (known : phrase ∈ language.phrases) : Tidy.ProseLine (lineOf phrase) :=
  phrase_is_prose phrase (phrases_known language phrase known)

theorem item_is_prose (text : String) : Tidy.ProseLine (lineOf ("- " ++ text)) :=
  line_is_prose _ '-' (by simp) (by decide) (by decide)

theorem settled_items (phrases texts : List String) :
    Tidy.SettledBlock (itemLines phrases texts) := by
  apply Tidy.settled_block_prose
  intro line member
  obtain ⟨text, -, rfl⟩ := List.mem_map.mp member
  exact item_is_prose text

theorem settled_code_block (info : String) (inner : List (List Char))
    (known : info = "" ∨ info = "bash")
    (stays : ∀ line ∈ inner, Tidy.fenceAfter (some codeFence) line = some codeFence) :
    Tidy.SettledBlock (blockLines info inner) := by
  have opens : Tidy.marker? (lineOf ("```" ++ info)) = some codeFence := by
    rcases known with rfl | rfl <;> decide
  exact Tidy.settled_block_fenced codeFence _ (lineOf "```") inner opens stays (by decide)
    (by decide)

theorem settled_text_block (info text : String) (known : info = "" ∨ info = "bash")
    (noFence : ∀ line ∈ linesOf text, ¬ "```".toList <+: line) :
    Tidy.SettledBlock (blockLines info ((linesOf text).map trimEnd)) := by
  apply settled_code_block info _ known
  intro line member
  obtain ⟨whole, isLine, rfl⟩ := List.mem_map.mp member
  apply stays_in_code_block
  exact fun starts => noFence whole isLine (starts.trans (Tidy.trim_end_starts whole))

theorem settled_facts (sheet : FactSheet) (inline : sheet.Inline) (kind : DocumentSection)
    (notIntro : kind ≠ .intro) : Tidy.SettledBlock (factLines sheet kind) := by
  have phrases := phrase_of_language_is_prose sheet.options.language
  cases kind with
  | intro => exact absurd rfl notIntro
  | features => exact settled_items _ _
  | quickstart =>
      apply settled_text_block "bash" _ (Or.inr rfl)
      intro line member starts
      have inLine : Char.ofNat 0x60 ∈ line := starts.subset (by decide)
      have inText := (field_occurs '\n' _ line member).subset inLine
      exact absurd (quickstart_characters _ _ inText) (by decide)
  | scripts =>
      apply settled_code_block "bash" _ (Or.inr rfl)
      have prose : ∀ line ∈ (scriptTexts sheet.scripts sheet.options.language).map lineOf,
          Tidy.ProseLine line := by
        intro line member
        obtain ⟨text, isText, rfl⟩ := List.mem_map.mp member
        rcases mem_script_texts _ _ text isText with rfl | ⟨entry, -, rfl⟩
        · exact phrases _ (by simp [Language.phrases])
        · exact line_is_prose _ 'n' (by simp [scriptEntry]) (by decide) (by decide)
      exact fun line member => Tidy.fence_after_text _ line (prose line member).noMarker
  | listing => exact settled_text_block "" _ (Or.inl rfl) inline.listing.noFence
  | api => exact settled_items _ _
  | environment => exact settled_items _ _
  | stack => exact settled_items _ _
  | license =>
      apply Tidy.settled_block_prose
      exact List.forall_mem_singleton.mpr (phrases _ (by simp [Language.phrases]))

theorem settled_section (sheet : FactSheet) (inline : sheet.Inline) (kind : DocumentSection)
    (notIntro : kind ≠ .intro) : Tidy.SettledBlock (sectionLines sheet kind) :=
  Tidy.settled_block_append [[], headingLine sheet.options.language kind] _
    (Tidy.settled_block_heading _ (heading_is_heading _ kind))
    (settled_facts sheet inline kind notIntro)

theorem settled_badges (sheet : FactSheet) (inline : sheet.Inline) :
    Tidy.SettledBlock (badgeLines sheet) := by
  rw [badgeLines]
  split
  next shown =>
    have line := (inline_badges sheet inline).resolve_left shown.2
    have prose := phrase_is_prose _ line
    exact Tidy.settled_block_after_blank _ prose.text prose.noMarker
  next => exact Tidy.settled_block_nil

theorem settled_toc (options : DocumentOptions) : Tidy.SettledBlock (tocLines options) := by
  rw [tocLines]
  split
  next =>
    refine Tidy.settled_block_append [[], lineOf "## 目录"] (List.map _ _) ?_ ?_
    · exact Tidy.settled_block_heading _ ⟨by decide⟩
    · apply Tidy.settled_block_prose
      intro line member
      obtain ⟨item, -, rfl⟩ := List.mem_map.mp member
      exact item_is_prose item
  next => exact Tidy.settled_block_nil

end Blocks

section Document

/-- The lines of the full document around the two lines that say what the project is. -/
def linesAround (sheet : FactSheet) (description intro : List Char) : List (List Char) :=
  lineOf ("# " ++ sheet.name) :: (badgeLines sheet ++ ([[], description] ++ (tocLines sheet.options
    ++ ([[], headingLine sheet.options.language .intro] ++ ([intro]
    ++ DocumentSection.all.tail.flatMap (sectionLines sheet))))))

theorem document_lines_around (sheet : FactSheet) :
    documentLines sheet =
      linesAround sheet
        (describedLine sheet.options.language.placeholders.description sheet)
        (describedLine sheet.options.language.placeholders.intro sheet) := by
  have sections : DocumentSection.all.flatMap (sectionLines sheet) =
      sectionLines sheet .intro ++ DocumentSection.all.tail.flatMap (sectionLines sheet) := rfl
  rw [documentLines, linesAround, sections, sectionLines, factLines]
  simp only [List.append_assoc, List.cons_append, List.nil_append]

theorem part_lines_around (sheet : FactSheet) (inline : sheet.Inline)
    (description intro : List Char) :
    linesAround sheet description intro =
      partLines (draftBefore sheet) ++ description ::
        (partLines (draftBetween sheet.options) ++ intro :: partLines (draftAfter sheet)) := by
  have sections : partLines (draftAfter sheet) =
      DocumentSection.all.tail.flatMap (sectionLines sheet) := by
    rw [draftAfter, part_lines_join _ (whole_sections sheet _), List.flatMap_map]
    refine List.flatMap_congr fun kind member => part_lines_section sheet inline kind ?_
    rintro rfl
    exact absurd member (by decide)
  rw [part_lines_before sheet inline, draftBetween, part_lines_append _ _ (whole_toc_draft _),
    part_lines_toc, heading_part, sections, linesAround]
  simp only [List.append_assoc, List.cons_append, List.nil_append]

/-- The line that stands for the description in the draft. -/
def draftedLine (phrase : String) (sheet : FactSheet) : List Char :=
  lineOf (descriptionOr phrase sheet)

theorem drafted_line_is_prose (phrase : String) (sheet : FactSheet)
    (known : phrase ∈ sheet.options.language.phrases) :
    Tidy.ProseLine (draftedLine phrase sheet) := by
  rw [draftedLine, descriptionOr]
  split
  next => exact phrase_of_language_is_prose _ phrase known
  next =>
    -- The slot starts with a null character, which no plain line does.
    exact ⟨by decide, by decide, fun heading => absurd heading.head (by decide)⟩

theorem fill_drafted_line (phrase : String) (sheet : FactSheet)
    (known : phrase ∈ sheet.options.language.phrases) :
    filledLine sheet.description (draftedLine phrase sheet) = describedLine phrase sheet := by
  rw [draftedLine, descriptionOr, describedLine]
  split
  next =>
    have lacks := phrase_of_language_lacks_slot _ phrase known
    exact fill_lacking _ _ (lacks_slot_of_part _ _ lacks (Tidy.trim_end_starts _).isInfix)
  next =>
    have slot : lineOf descriptionSlot = slotLine := by decide
    rw [slot]
    exact fill_slot _

theorem drafted_part (phrase : String) (sheet : FactSheet)
    (known : phrase ∈ sheet.options.language.phrases) :
    partLines (descriptionOr phrase sheet ++ "\n") = [draftedLine phrase sheet] := by
  apply part_lines_one_line
  rw [descriptionOr]
  split
  next => exact (phrase_of_language_is_plain _ phrase known).oneLine
  next => decide

/-- The lines of the draft. -/
def draftedLines (sheet : FactSheet) : List (List Char) :=
  linesAround sheet
    (draftedLine sheet.options.language.placeholders.description sheet)
    (draftedLine sheet.options.language.placeholders.intro sheet)

theorem full_draft_lines (sheet : FactSheet) (inline : sheet.Inline) :
    Tidy.trimmedLines (fullDraft sheet).toList = draftedLines sheet ++ [[]] := by
  have wholeRest := whole_lines_append _ _ (whole_lines_line
    (descriptionOr sheet.options.language.placeholders.intro sheet)) (whole_draft_after sheet)
  have wholeBelow := whole_lines_append _ _ (whole_draft_between sheet.options) wholeRest
  have wholeDescribed := whole_lines_append _ _ (whole_lines_line
    (descriptionOr sheet.options.language.placeholders.description sheet)) wholeBelow
  rw [full_draft_parts,
    trimmed_lines_of_whole _ (whole_lines_append _ _ (whole_draft_before sheet) wholeDescribed),
    part_lines_append _ _ (whole_draft_before sheet),
    part_lines_append _ _ (whole_lines_line _), drafted_part _ _ (by simp [Language.phrases]),
    part_lines_append _ _ (whole_draft_between sheet.options),
    part_lines_append _ _ (whole_lines_line _), drafted_part _ _ (by simp [Language.phrases]),
    draftedLines, part_lines_around sheet inline]
  simp only [List.singleton_append]

/-- Tidying leaves the lines of the draft as they are. -/
theorem tidied_draft_lines (sheet : FactSheet) (inline : sheet.Inline) :
    Tidy.tidiedLines (fullDraft sheet).toList = draftedLines sheet := by
  have title : Tidy.IsHeadingLine (lineOf ("# " ++ sheet.name)) := by
    have characters : ("# " ++ sheet.name).toList = '#' :: ' ' :: sheet.name.toList := by simp
    rw [lineOf, characters, trim_end_start '#' _ (by decide)]
    exact ⟨rfl⟩
  have description := drafted_line_is_prose
    sheet.options.language.placeholders.description sheet (by simp [Language.phrases])
  have intro := drafted_line_is_prose
    sheet.options.language.placeholders.intro sheet (by simp [Language.phrases])
  have sections : ∀ kind ∈ DocumentSection.all.tail,
      Tidy.SettledBlock (sectionLines sheet kind) := by
    intro kind member
    apply settled_section sheet inline kind
    rintro rfl
    exact absurd member (by decide)
  apply Tidy.tidied_under_heading _ _ _ title _ (full_draft_lines sheet inline)
  -- What stands under the title is taken apart block by block, from the top down.
  apply Tidy.settled_block_append _ _ (settled_badges sheet inline)
  apply Tidy.settled_block_append _ _
    (Tidy.settled_block_after_blank _ description.text description.noMarker)
  apply Tidy.settled_block_append _ _ (settled_toc sheet.options)
  apply Tidy.settled_block_append _ _
    (Tidy.settled_block_heading _ (heading_is_heading _ .intro))
  apply Tidy.settled_block_append _ _
    (Tidy.settled_block_prose _ (List.forall_mem_singleton.mpr intro))
  exact Tidy.settled_block_flat_map _ _ sections

theorem fill_part_lines (description text : String) (lacks : LacksSlot text.toList) :
    (partLines text).map (filledLine description) = partLines text := by
  have unchanged : ∀ line ∈ partLines text, filledLine description line = id line :=
    fun line member => fill_lacking description line (part_lines_lack_slot text lacks line member)
  exact (List.map_congr_left unchanged).trans (List.map_id _)

/-- Filling the slots puts the description in its two lines and leaves all others as they are. -/
theorem fill_drafted_lines (sheet : FactSheet) (inline : sheet.Inline) :
    (draftedLines sheet).map (filledLine sheet.description) = documentLines sheet := by
  have lacks := inline_lacks_slot sheet inline
  rw [document_lines_around, draftedLines, part_lines_around sheet inline,
    part_lines_around sheet inline, List.map_append, List.map_cons, List.map_append, List.map_cons,
    fill_part_lines _ _ (before_lacks_slot sheet lacks),
    fill_part_lines _ _ (between_lacks_slot sheet.options),
    fill_part_lines _ _ (after_lacks_slot sheet lacks),
    fill_drafted_line _ _ (by simp [Language.phrases]),
    fill_drafted_line _ _ (by simp [Language.phrases])]

/-- The full document is its draft with the slots filled. -/
theorem full_document_filled (sheet : FactSheet) (inline : sheet.Inline) :
    linesOf (fullDocument sheet) =
      (draftedLines sheet).map (filledLine sheet.description) ++ [[]] := by
  have tidied := tidied_draft_lines sheet inline
  have notEmpty : Tidy.tidiedLines (fullDraft sheet).toList ≠ [] := by
    rw [tidied]
    exact List.cons_ne_nil _ _
  rw [fullDocument, filled_document_lines _ _ inline.description notEmpty, tidied]

/-- The full document is the lines of its facts in their fixed layout, each ended by a line
feed. -/
theorem full_document_layout (sheet : FactSheet) (inline : sheet.Inline) :
    linesOf (fullDocument sheet) = documentLines sheet ++ [[]] := by
  rw [full_document_filled sheet inline, fill_drafted_lines sheet inline]

/-- The labels of a project that has every badge. -/
def suppliedLabels : BadgeLabels :=
  { license := some "MIT", node := some ">=18", typescript := true }

/-- A project that has every badge. -/
def suppliedBadges : BadgeFacts :=
  { license := some (WideText.ofString "MIT")
    node := some (WideText.ofString ">=18")
    typescript := true }

/-- A sheet with facts of every kind. -/
def suppliedSheet : FactSheet :=
  { name := "demo"
    description := "A demo.  "
    badges := suppliedLabels.line
    options := DocumentOptions.default
    features := ["one ", "# two"]
    scripts := some [("start", "node app.js"), ("test", "")]
    listing := "app.js\n\n~~~ "
    routes := ["GET /", "POST /"]
    environmentKeys := ["PORT"]
    dependencies := some [("express", "4"), ("cors", "2")] }

theorem supplied_sheet_layout :
    linesOf (fullDocument suppliedSheet) = documentLines suppliedSheet ++ [[]] := by
  have inline : suppliedSheet.Inline :=
    { name := by decide
      description := by decide
      badges := ⟨suppliedBadges, by decide +kernel⟩
      features := by decide
      scripts := by decide
      listing := ⟨by decide, by decide, by decide⟩
      routes := by decide
      environmentKeys := by decide
      dependencies := by decide
      distinct := by decide }
  exact full_document_layout suppliedSheet inline

end Document

end ReadmePress
