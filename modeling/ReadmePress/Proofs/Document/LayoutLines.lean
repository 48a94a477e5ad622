import ReadmePress.Proofs.Document.Description
import ReadmePress.Proofs.Document.PlainFacts

/-!
The lines of the full document, written out section by section, and the facts that give them:
each fact in a line of its own, and a listing that stays in its code block. From such facts every
part of the draft has the lines of its place in the layout.
-/

namespace ReadmePress

open ReadmePress.Text

section Layout

/-- A text as a line of the document. -/
def lineOf (text : String) : List Char := trimEnd text.toList

/-- The items of a list, or the phrases in their place when there are none. -/
def itemLines (phrases texts : List String) : List (List Char) :=
  (if texts.isEmpty then phrases else texts).map fun text => lineOf ("- " ++ text)

/-- Lines in a code fence, after a blank line. -/
def blockLines (info : String) (inner : List (List Char)) : List (List Char) :=
  [] :: lineOf ("```" ++ info) :: inner ++ [lineOf "```"]

/-- The description as it is, or a phrase in its place. -/
def describedLine (phrase : String) (sheet : FactSheet) : List Char :=
  if sheet.description = "" then lineOf phrase else sheet.description.toList

/-- The badges below the title, where there are any and the options ask for them. -/
def badgeLines (sheet : FactSheet) : List (List Char) :=
  if sheet.options.badges = true ∧ sheet.badges ≠ "" then [[], lineOf sheet.badges] else []

/-- The table of contents, which the Chinese document has where the options ask for it. -/
def tocLines (options : DocumentOptions) : List (List Char) :=
  if options.language = .chinese ∧ options.toc = true then
    [] :: lineOf "## 目录" :: tocItems.map fun item => lineOf ("- " ++ item)
  else []

/-- The lines that stand between the heading of a section and the blank line above the next. -/
def factLines (sheet : FactSheet) : DocumentSection → List (List Char) :=
  let language := sheet.options.language
  let phrases := language.placeholders
  fun
  | .intro => [describedLine phrases.intro sheet]
  | .features => itemLines phrases.features sheet.features
  | .quickstart => blockLines "bash" ((linesOf language.quickstart).map trimEnd)
  | .scripts => blockLines "bash" ((scriptTexts sheet.scripts language).map lineOf)
  | .listing => blockLines "" ((linesOf sheet.listing).map trimEnd)
  | .api => itemLines [phrases.routes] sheet.routes
  | .environment =>
      itemLines [phrases.environment]
        (sheet.environmentKeys.map fun key => key ++ "=" ++ phrases.environmentValue)
  | .stack => itemLines [phrases.stack] ((byName (sheet.dependencies.getD [])).map stackEntry)
  | .license => [lineOf phrases.license]

/-- A section with its heading, after a blank line. -/
def sectionLines (sheet : FactSheet) (kind : DocumentSection) : List (List Char) :=
  [] :: headingLine sheet.options.language kind :: factLines sheet kind

/-- The lines of the full document. -/
def documentLines (sheet : FactSheet) : List (List Char) :=
  lineOf ("# " ++ sheet.name) :: badgeLines sheet
    ++ [[], describedLine sheet.options.language.placeholders.description sheet]
    ++ tocLines sheet.options
    ++ DocumentSection.all.flatMap (sectionLines sheet)

end Layout

section Facts

/-- A text that stands in one line and does not hold the slot. -/
structure InlineText (text : String) : Prop where
  oneLine : OneLine text
  lacksSlot : LacksSlot text.toList

instance (text : String) : Decidable (InlineText text) :=
  decidable_of_iff (OneLine text ∧ LacksSlot text.toList)
    ⟨fun ⟨oneLine, lacksSlot⟩ => ⟨oneLine, lacksSlot⟩, fun ⟨oneLine, lacksSlot⟩ => ⟨oneLine, lacksSlot⟩⟩

/-- A text of lines none of which closes a code block. -/
structure BlockText (text : String) : Prop where
  noReturn : '\r' ∉ text.toList
  lacksSlot : LacksSlot text.toList
  noFence : ∀ line ∈ linesOf text, ¬ "```".toList <+: line

/-- Facts that each stand in their line, and a listing that stays in its code block. -/
structure FactSheet.Inline (sheet : FactSheet) : Prop where
  name : InlineText sheet.name
  description : '\n' ∉ sheet.description.toList
  badges : ∃ facts : BadgeFacts, facts.line = .ok sheet.badges
  features : ∀ feature ∈ sheet.features, InlineText feature
  scripts : ∀ entry ∈ sheet.scripts.getD [], InlineText entry.1 ∧ InlineText entry.2
  listing : BlockText sheet.listing
  routes : ∀ route ∈ sheet.routes, InlineText route
  environmentKeys : ∀ key ∈ sheet.environmentKeys, InlineText key
  dependencies : ∀ entry ∈ sheet.dependencies.getD [], InlineText entry.1 ∧ InlineText entry.2
  distinct : ((sheet.dependencies.getD []).map Prod.fst).Nodup

theorem inline_badges (sheet : FactSheet) (inline : sheet.Inline) :
    sheet.badges = "" ∨ isPhrase sheet.badges.toList = true := by
  obtain ⟨facts, line⟩ := inline.badges
  obtain ⟨labels, -, isLine⟩ := map_succeeds _ _ _ line
  rw [← isLine]
  exact badge_line_is_phrase labels

theorem inline_lacks_slot (sheet : FactSheet) (inline : sheet.Inline) : sheet.LacksSlot where
  name := inline.name.lacksSlot
  badges := by
    rcases inline_badges sheet inline with isEmpty | phrase
    · rw [isEmpty]
      decide
    · exact phrase_lacks_slot _ phrase
  features feature member := (inline.features feature member).lacksSlot
  scripts entry member := (inline.scripts entry member).imp (·.lacksSlot) (·.lacksSlot)
  listing := inline.listing.lacksSlot
  routes route member := (inline.routes route member).lacksSlot
  environmentKeys key member := (inline.environmentKeys key member).lacksSlot
  dependencies entry member := (inline.dependencies entry member).imp (·.lacksSlot) (·.lacksSlot)

end Facts

section DraftLines

theorem part_lines_lines (texts : List String) (oneLine : ∀ text ∈ texts, OneLine text) :
    partLines (String.join (texts.map (· ++ "\n"))) = texts.map lineOf := by
  rw [part_lines_join _ (whole_each_line texts), List.flatMap_map, List.map_eq_flatMap]
  exact List.flatMap_congr fun text member => part_lines_one_line text (oneLine text member)

theorem part_lines_items (texts : List String) (oneLine : ∀ text ∈ texts, OneLine text) :
    partLines (listItems texts) = texts.map fun text => lineOf ("- " ++ text) := by
  rw [list_items_lines, part_lines_lines, List.map_map]
  · rfl
  · intro item member
    obtain ⟨text, isText, rfl⟩ := List.mem_map.mp member
    exact one_line_append "- " text (by decide) (oneLine text isText)

theorem part_lines_list_or (phrase : String) (texts : List String) (phraseOneLine : OneLine phrase)
    (oneLine : ∀ text ∈ texts, OneLine text) :
    partLines (listOr phrase texts) = itemLines [phrase] texts := by
  rw [listOr, part_lines_items, itemLines]
  split
  · simpa using phraseOneLine
  · exact oneLine

theorem part_lines_code_block (info text : String) (known : info = "" ∨ info = "bash") :
    partLines (codeBlock info text) = blockLines info (partLines (text ++ "\n")) := by
  have opening : partLines ("\n" ++ "```" ++ info ++ "\n") = [[], lineOf ("```" ++ info)] := by
    rcases known with rfl | rfl <;> decide
  have closing : partLines ("```" ++ "\n") = [lineOf "```"] := by decide
  rw [code_block_parts, part_lines_append _ _ (whole_lines_line _), opening,
    part_lines_append _ _ (whole_lines_line _), closing]
  rfl

theorem part_lines_scripts (scripts : Option (List (String × String))) (language : Language)
    (inline : ∀ entry ∈ scripts.getD [], InlineText entry.1 ∧ InlineText entry.2) :
    partLines (scriptText scripts language ++ "\n") =
      (scriptTexts scripts language).map lineOf := by
  rw [script_text_lines, part_lines_lines]
  intro text member
  rcases mem_script_texts scripts language text member with rfl | ⟨entry, isEntry, rfl⟩
  · exact (phrase_of_language_is_plain language _ (by simp [Language.phrases])).oneLine
  · exact (script_is_plain entry ((inline entry isEntry).imp (·.oneLine) (·.oneLine))).oneLine

theorem part_lines_body (sheet : FactSheet) (inline : sheet.Inline) (kind : DocumentSection)
    (notIntro : kind ≠ .intro) : partLines (sectionBody sheet kind) = factLines sheet kind := by
  have phrases := fun phrase known =>
    (phrase_of_language_is_plain sheet.options.language phrase known).oneLine
  cases kind with
  | intro => exact absurd rfl notIntro
  | features =>
      apply part_lines_items
      split
      · exact fun feature member => phrases feature (feature_is_phrase _ feature member)
      · exact fun feature member => (inline.features feature member).oneLine
  | quickstart =>
      have noReturn : '\r' ∉ sheet.options.language.quickstart.toList :=
        fun isReturn => absurd (quickstart_characters _ _ isReturn) (by decide)
      exact (part_lines_code_block "bash" _ (Or.inr rfl)).trans
        (congrArg (blockLines "bash") (part_lines_text _ noReturn))
  | scripts =>
      exact (part_lines_code_block "bash" _ (Or.inr rfl)).trans
        (congrArg (blockLines "bash") (part_lines_scripts _ _ inline.scripts))
  | listing =>
      exact (part_lines_code_block "" _ (Or.inl rfl)).trans
        (congrArg (blockLines "") (part_lines_text _ inline.listing.noReturn))
  | api =>
      exact part_lines_list_or _ _ (phrases _ (by simp [Language.phrases]))
        fun route member => (inline.routes route member).oneLine
  | environment =>
      apply part_lines_list_or _ _ (phrases _ (by simp [Language.phrases]))
      intro line member
      obtain ⟨key, isListed, rfl⟩ := List.mem_map.mp member
      exact one_line_append _ _
        (one_line_append _ _ (inline.environmentKeys key isListed).oneLine (by decide))
        (phrases _ (by simp [Language.phrases]))
  | stack =>
      have lines : factLines sheet .stack =
          itemLines [sheet.options.language.placeholders.stack] (stackLines sheet.dependencies) := by
        rw [stack_lines_by_name _ inline.distinct]
        rfl
      rw [lines]
      exact part_lines_list_or _ _ (phrases _ (by simp [Language.phrases]))
        (stack_lines_one_line _ fun entry member =>
          (inline.dependencies entry member).imp (·.oneLine) (·.oneLine))
  | license => exact part_lines_one_line _ (phrases _ (by simp [Language.phrases]))

theorem part_lines_section (sheet : FactSheet) (inline : sheet.Inline) (kind : DocumentSection)
    (notIntro : kind ≠ .intro) : partLines (sectionDraft sheet kind) = sectionLines sheet kind := by
  rw [sectionDraft, part_lines_append _ _ (whole_section_heading _), heading_part,
    part_lines_body sheet inline kind notIntro]
  rfl

theorem part_lines_toc (options : DocumentOptions) :
    partLines (tocDraft options) = tocLines options := by
  rw [toc_draft_eq, tocLines]
  split
  next =>
    have heading : partLines (sectionHeading "目录") = [[], lineOf "## 目录"] := by decide
    rw [part_lines_append _ _ (whole_section_heading _), heading, part_lines_items]
    · rfl
    · exact fun item member => (phrase_is_plain item (toc_items_known item member)).oneLine
  next => rfl

theorem part_lines_before (sheet : FactSheet) (inline : sheet.Inline) :
    partLines (draftBefore sheet) = lineOf ("# " ++ sheet.name) :: badgeLines sheet ++ [[]] := by
  have title := part_lines_one_line ("# " ++ sheet.name)
    (one_line_append "# " _ (by decide) inline.name.oneLine)
  have blank : partLines "\n" = [[]] := by decide
  have blankWhole : WholeLines "\n" := whole_lines_line ""
  have badges : partLines (badgesDraft sheet) = badgeLines sheet := by
    rw [badgesDraft, badgeLines]
    by_cases shown : sheet.options.badges = true ∧ sheet.badges ≠ ""
    · have line := (inline_badges sheet inline).resolve_left shown.2
      rw [if_pos (by simpa using shown), if_pos shown, String.append_assoc,
        part_lines_append _ _ blankWhole, blank,
        part_lines_one_line _ (phrase_is_plain _ line).oneLine]
      rfl
    · rw [if_neg (by simpa using shown), if_neg shown]
      rfl
  rw [draftBefore, part_lines_append _ "\n"
      (whole_lines_append _ _ (whole_lines_line _) (whole_badges_draft sheet)),
    part_lines_append _ _ (whole_lines_line _), title, badges, blank]
  rfl

end DraftLines

end ReadmePress
