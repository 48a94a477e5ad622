import ReadmePress.Proofs.Document.ManifestLines
import ReadmePress.Proofs.Document.PhraseTexts

/-!
The description stands in the documents as it was given and changes nothing around it. The text
around it is found from the other facts alone, as long as none of them holds the slot.
-/

namespace ReadmePress

open ReadmePress.Text

section Parts

/-- A draft in parts, with a slot line before every part but the first. -/
def slottedDraft (first : String) (rest : List String) : String :=
  first ++ String.join (rest.map fun part => descriptionSlot ++ "\n" ++ part)

theorem whole_slot_part (part : String) (whole : WholeLines part) :
    WholeLines (descriptionSlot ++ "\n" ++ part) :=
  whole_lines_append _ part (whole_lines_line descriptionSlot) whole

theorem slot_part_lines (part : String) :
    partLines (descriptionSlot ++ "\n" ++ part) = slotLine :: partLines part := by
  have slot : partLines (descriptionSlot ++ "\n") = [slotLine] := by decide
  rw [part_lines_append _ part (whole_lines_line descriptionSlot), slot]
  rfl

theorem slotted_lines (first : String) (rest : List String)
    (whole : ∀ part ∈ first :: rest, WholeLines part) :
    Tidy.trimmedLines (slottedDraft first rest).toList =
      partLines first ++ rest.flatMap (fun part => slotLine :: partLines part) ++ [[]] := by
  obtain ⟨wholeFirst, wholeRest⟩ := List.forall_mem_cons.mp whole
  have wholeParts : ∀ text ∈ rest.map fun part => descriptionSlot ++ "\n" ++ part,
      WholeLines text := by
    intro text member
    obtain ⟨part, isPart, rfl⟩ := List.mem_map.mp member
    exact whole_slot_part part (wholeRest part isPart)
  rw [slottedDraft,
    trimmed_lines_of_whole _ (whole_lines_append _ _ wholeFirst (whole_lines_join _ wholeParts)),
    part_lines_append _ _ wholeFirst, part_lines_join _ wholeParts, List.flatMap_map]
  simp only [slot_part_lines]

theorem part_lines_lack_slot (text : String) (lacks : LacksSlot text.toList) :
    ∀ line ∈ partLines text, LacksSlot line :=
  fun line member => lacks_slot_of_trimmed text.toList line lacks (List.dropLast_subset _ member)

theorem no_slot_line_among (lines : List (List Char)) (lacks : ∀ line ∈ lines, LacksSlot line) :
    lines.count slotLine = 0 :=
  List.count_eq_zero.mpr fun member => lacks slotLine member List.infix_rfl

theorem count_slot_parts (parts : List String) (lacks : ∀ part ∈ parts, LacksSlot part.toList) :
    (parts.flatMap fun part => slotLine :: partLines part).count slotLine = parts.length := by
  induction parts with
  | nil => rfl
  | cons part more induction =>
      obtain ⟨here, later⟩ := List.forall_mem_cons.mp lacks
      rw [List.flatMap_cons, List.cons_append, List.count_cons_self, List.count_append,
        no_slot_line_among _ (part_lines_lack_slot part here), induction later, Nat.zero_add]
      rfl

/-- A document drafted in parts without slots is pieces with the description between them, as
many as parts. -/
theorem slotted_pieces (first second : String) (rest : List String)
    (whole : ∀ part ∈ first :: second :: rest, WholeLines part)
    (lacks : ∀ part ∈ first :: second :: rest, LacksSlot part.toList) :
    ∃ pieces : List (List Char), pieces.length = rest.length + 2 ∧
      ∀ description, (finishDocument (slottedDraft first (second :: rest)) description).toList =
        description.toList.intercalate pieces := by
  obtain ⟨firstLacks, restLacks⟩ := List.forall_mem_cons.mp lacks
  have lines := slotted_lines first (second :: rest) whole
  have number : (Tidy.trimmedLines (slottedDraft first (second :: rest)).toList).count slotLine =
      rest.length + 1 := by
    have ends : List.count slotLine [[]] = 0 := by decide
    rw [lines, List.count_append, List.count_append, count_slot_parts _ restLacks, ends,
      no_slot_line_among _ (part_lines_lack_slot first firstLacks), Nat.zero_add]
    rfl
  have known : ∀ line ∈ Tidy.trimmedLines (slottedDraft first (second :: rest)).toList,
      SlotOrLacking line := by
    intro line member
    rw [lines, List.mem_append, List.mem_append] at member
    rcases member with (inFirst | inRest) | isLast
    · exact Or.inr (part_lines_lack_slot first firstLacks line inFirst)
    · obtain ⟨part, isPart, inPart⟩ := List.mem_flatMap.mp inRest
      rcases List.mem_cons.mp inPart with isSlot | isLine
      · exact Or.inl isSlot
      · exact Or.inr (part_lines_lack_slot part (restLacks part isPart) line isLine)
    · rw [List.mem_singleton.mp isLast]
      exact Or.inr (by decide)
  have slot : slotLine ∈ Tidy.trimmedLines (slottedDraft first (second :: rest)).toList := by
    apply List.count_pos_iff.mp
    omega
  obtain ⟨pieces, pieceNumber, finished⟩ := finished_pieces _ known slot
  exact ⟨pieces, by rw [pieceNumber, number], finished⟩

end Parts

section Facts

/-- Facts that the slot does not occur in. Of the description nothing is asked. -/
structure FactSheet.LacksSlot (sheet : FactSheet) : Prop where
  name : ReadmePress.LacksSlot sheet.name.toList
  badges : ReadmePress.LacksSlot sheet.badges.toList
  features : ∀ feature ∈ sheet.features, ReadmePress.LacksSlot feature.toList
  scripts : ∀ entry ∈ sheet.scripts.getD [],
    ReadmePress.LacksSlot entry.1.toList ∧ ReadmePress.LacksSlot entry.2.toList
  listing : ReadmePress.LacksSlot sheet.listing.toList
  routes : ∀ route ∈ sheet.routes, ReadmePress.LacksSlot route.toList
  environmentKeys : ∀ key ∈ sheet.environmentKeys, ReadmePress.LacksSlot key.toList
  dependencies : ∀ entry ∈ sheet.dependencies.getD [],
    ReadmePress.LacksSlot entry.1.toList ∧ ReadmePress.LacksSlot entry.2.toList

/-- The part of the draft above the description. -/
def draftBefore (sheet : FactSheet) : String :=
  "# " ++ sheet.name ++ "\n" ++ badgesDraft sheet ++ "\n"

/-- The part of the draft between the description and the introduction. -/
def draftBetween (options : DocumentOptions) : String :=
  tocDraft options ++ sectionHeading (DocumentSection.intro.title options.language)

/-- The part of the draft below the introduction. -/
def draftAfter (sheet : FactSheet) : String :=
  String.join (DocumentSection.all.tail.map (sectionDraft sheet))

/-- The draft in its parts. -/
theorem full_draft_parts (sheet : FactSheet) :
    fullDraft sheet =
      draftBefore sheet ++
        ((descriptionOr sheet.options.language.placeholders.description sheet ++ "\n") ++
          (draftBetween sheet.options ++
            ((descriptionOr sheet.options.language.placeholders.intro sheet ++ "\n") ++
              draftAfter sheet))) := by
  have sections : String.join (DocumentSection.all.map (sectionDraft sheet)) =
      sectionDraft sheet .intro ++ draftAfter sheet := by
    rw [draftAfter, ← String.join_cons]
    rfl
  rw [fullDraft, sections, sectionDraft, sectionBody, draftBefore, draftBetween]
  simp only [String.append_assoc]

theorem badges_lack_slot (sheet : FactSheet) (lacks : LacksSlot sheet.badges.toList) :
    LacksSlot (badgesDraft sheet).toList := by
  rw [badgesDraft]
  split
  · exact lacks_slot_line _ (lacks_slot_after "\n" _ (by decide) (by decide) lacks)
  · decide

theorem toc_lacks_slot (options : DocumentOptions) : LacksSlot (tocDraft options).toList := by
  rw [toc_draft_eq]
  split
  next =>
    apply lacks_slot_after_lines _ _ (whole_section_heading "目录") (by decide)
    exact lacks_slot_list_items _ fun item member =>
      phrase_lacks_slot item (toc_items_known item member)
  next => decide

theorem heading_lacks_slot (language : Language) (kind : DocumentSection) :
    LacksSlot (sectionHeading (kind.title language)).toList :=
  lacks_slot_line _ (lacks_slot_after "\n## " _ (by decide) (by decide)
    (phrase_of_language_lacks_slot language _ (title_is_phrase language kind)))

theorem code_block_lacks_slot (info text : String) (known : info = "" ∨ info = "bash")
    (lacks : LacksSlot (text ++ "\n").toList) : LacksSlot (codeBlock info text).toList := by
  have opening : LacksSlot ("\n" ++ "```" ++ info ++ "\n").toList := by
    rcases known with rfl | rfl <;> decide
  rw [code_block_parts]
  apply lacks_slot_after_lines _ _ (whole_lines_line _) opening
  exact lacks_slot_after_lines _ _ (whole_lines_line _) lacks (by decide)

theorem script_text_lacks_slot (scripts : Option (List (String × String))) (language : Language)
    (lacks : ∀ entry ∈ scripts.getD [], LacksSlot entry.1.toList ∧ LacksSlot entry.2.toList) :
    LacksSlot (scriptText scripts language ++ "\n").toList := by
  rw [script_text_lines]
  apply lacks_slot_lines
  intro text member
  rcases mem_script_texts scripts language text member with rfl | ⟨entry, isEntry, rfl⟩
  · exact phrase_of_language_lacks_slot language _ (by simp [Language.phrases])
  · obtain ⟨name, command⟩ := lacks entry isEntry
    apply lacks_slot_glued _ "  # " _ (by decide) (by decide) (by decide) _ command
    exact lacks_slot_after "npm run " _ (by decide) (by decide) name

theorem section_lacks_slot (sheet : FactSheet) (lacks : sheet.LacksSlot) (kind : DocumentSection)
    (notIntro : kind ≠ .intro) : LacksSlot (sectionDraft sheet kind).toList := by
  have phrases := phrase_of_language_lacks_slot sheet.options.language
  apply lacks_slot_after_lines _ _ (whole_section_heading _) (heading_lacks_slot _ kind)
  cases kind with
  | intro => exact absurd rfl notIntro
  | features =>
      apply lacks_slot_list_items
      split
      · exact fun feature member => phrases feature (feature_is_phrase _ feature member)
      · exact lacks.features
  | quickstart =>
      exact code_block_lacks_slot "bash" _ (Or.inr rfl)
        (lacks_slot_line _ (quickstart_lacks_slot _))
  | scripts =>
      exact code_block_lacks_slot "bash" _ (Or.inr rfl)
        (script_text_lacks_slot sheet.scripts _ lacks.scripts)
  | listing =>
      exact code_block_lacks_slot "" _ (Or.inl rfl) (lacks_slot_line _ lacks.listing)
  | api => exact lacks_slot_list_or _ _ (phrases _ (by simp [Language.phrases])) lacks.routes
  | environment =>
      apply lacks_slot_list_or _ _ (phrases _ (by simp [Language.phrases]))
      intro line member
      obtain ⟨key, isListed, rfl⟩ := List.mem_map.mp member
      exact lacks_slot_glued key "=" _ (by decide) (by decide) (by decide)
        (lacks.environmentKeys key isListed) (phrases _ (by simp [Language.phrases]))
  | stack =>
      apply lacks_slot_list_or _ _ (phrases _ (by simp [Language.phrases]))
      intro line member
      obtain ⟨entry, isEntry, rfl⟩ := stack_line_of_entry sheet.dependencies line member
      obtain ⟨name, version⟩ := lacks.dependencies entry isEntry
      exact lacks_slot_glued _ " " _ (by decide) (by decide) (by decide) name version
  | license => exact lacks_slot_line _ (phrases _ (by simp [Language.phrases]))

theorem whole_draft_before (sheet : FactSheet) : WholeLines (draftBefore sheet) :=
  whole_lines_line _

theorem whole_draft_between (options : DocumentOptions) : WholeLines (draftBetween options) :=
  whole_lines_append _ _ (whole_toc_draft options) (whole_section_heading _)

theorem whole_draft_after (sheet : FactSheet) : WholeLines (draftAfter sheet) :=
  whole_lines_join _ (whole_sections sheet _)

theorem before_lacks_slot (sheet : FactSheet) (lacks : sheet.LacksSlot) :
    LacksSlot (draftBefore sheet).toList := by
  have title : LacksSlot ("# " ++ sheet.name ++ "\n").toList :=
    lacks_slot_line _ (lacks_slot_after "# " _ (by decide) (by decide) lacks.name)
  apply lacks_slot_line
  exact lacks_slot_after_lines _ _ (whole_lines_line _) title (badges_lack_slot sheet lacks.badges)

theorem between_lacks_slot (options : DocumentOptions) :
    LacksSlot (draftBetween options).toList :=
  lacks_slot_after_lines _ _ (whole_toc_draft options) (toc_lacks_slot options)
    (heading_lacks_slot options.language .intro)

theorem after_lacks_slot (sheet : FactSheet) (lacks : sheet.LacksSlot) :
    LacksSlot (draftAfter sheet).toList := by
  apply lacks_slot_join _ (whole_sections sheet _)
  intro text member
  obtain ⟨kind, isKind, rfl⟩ := List.mem_map.mp member
  apply section_lacks_slot sheet lacks kind
  rintro rfl
  exact absurd isKind (by decide)

end Facts

/-- With a description, the draft has it in two slots, and the description itself is no part of
the draft. -/
theorem described_full_draft (sheet : FactSheet) (description : String)
    (described : description ≠ "") :
    fullDraft { sheet with description := description } =
      slottedDraft (draftBefore sheet) [draftBetween sheet.options, draftAfter sheet] := by
  have slot (phrase : String) :
      descriptionOr phrase { sheet with description := description } = descriptionSlot :=
    if_neg described
  have before : draftBefore { sheet with description := description } = draftBefore sheet := rfl
  have after : draftAfter { sheet with description := description } = draftAfter sheet := rfl
  rw [full_draft_parts, slot, slot, before, after, slottedDraft]
  simp [String.join_cons, String.append_assoc]

theorem described_short_draft (name description : String) (features : List String)
    (described : description ≠ "") :
    shortDraft name description features =
      slottedDraft ("# " ++ name ++ "\n\n")
        [sectionHeading shortFeaturesTitle ++
          listItems (if features.isEmpty then [shortDefaultFeature] else features)] := by
  rw [shortDraft, slotFor, if_neg described, slottedDraft]
  simp [String.join_cons, String.append_assoc]

theorem full_document_around (sheet : FactSheet) (lacks : sheet.LacksSlot) :
    ∃ before between after : String, ∀ description, description ≠ "" →
      fullDocument { sheet with description := description } =
        before ++ description ++ between ++ description ++ after := by
  obtain ⟨pieces, number, finished⟩ := slotted_pieces (draftBefore sheet)
    (draftBetween sheet.options) [draftAfter sheet]
    (by simp [whole_draft_before, whole_draft_between, whole_draft_after])
    (by simp [before_lacks_slot sheet lacks, between_lacks_slot, after_lacks_slot sheet lacks])
  obtain ⟨before, between, after, rfl⟩ := List.length_eq_three.mp number
  refine ⟨String.ofList before, String.ofList between, String.ofList after, ?_⟩
  intro description described
  rw [← String.toList_inj, fullDocument, described_full_draft sheet description described,
    finished description]
  simp [List.append_assoc]

theorem short_document_around (name : String) (features : List String)
    (nameLacks : LacksSlot name.toList) (lacks : ∀ feature ∈ features, LacksSlot feature.toList) :
    ∃ before after : String, ∀ description, description ≠ "" →
      shortDocument name description features = before ++ description ++ after := by
  have wholeTitle : WholeLines ("# " ++ name ++ "\n\n") := by
    have feeds : "\n\n" = "\n" ++ "\n" := rfl
    rw [feeds, ← String.append_assoc]
    exact whole_lines_line _
  have titleLacks : LacksSlot ("# " ++ name ++ "\n\n").toList :=
    lacks_slot_before _ "\n\n" (by decide)
      (lacks_slot_after "# " name (by decide) (by decide) nameLacks) (by decide)
  have listLacks : LacksSlot (listItems
      (if features.isEmpty then [shortDefaultFeature] else features)).toList := by
    apply lacks_slot_list_items
    split
    · decide
    · exact lacks
  have sectionLacks := lacks_slot_after_lines _ _ (whole_section_heading shortFeaturesTitle)
    (by decide) listLacks
  have wholeSection := whole_lines_append _ _ (whole_section_heading shortFeaturesTitle)
    (whole_list_items (if features.isEmpty then [shortDefaultFeature] else features))
  obtain ⟨pieces, number, finished⟩ := slotted_pieces _ _ []
    (List.forall_mem_cons.mpr ⟨wholeTitle, List.forall_mem_singleton.mpr wholeSection⟩)
    (List.forall_mem_cons.mpr ⟨titleLacks, List.forall_mem_singleton.mpr sectionLacks⟩)
  obtain ⟨before, after, rfl⟩ := List.length_eq_two.mp number
  refine ⟨String.ofList before, String.ofList after, ?_⟩
  intro description described
  rw [← String.toList_inj, shortDocument, described_short_draft name description features described,
    finished description]
  simp [List.append_assoc]

/-- The description stands verbatim in its two places of the full document and its one place of
the short one, and the text around it is the same for every description. -/
theorem description_stands_verbatim :
    (∀ sheet : FactSheet, sheet.LacksSlot →
      ∃ before between after : String, ∀ description : String, description ≠ "" →
        fullDocument { sheet with description := description } =
          before ++ description ++ between ++ description ++ after) ∧
    ∀ (name : String) (features : List String), LacksSlot name.toList →
      (∀ feature ∈ features, LacksSlot feature.toList) →
      ∃ before after : String, ∀ description : String, description ≠ "" →
        shortDocument name description features = before ++ description ++ after :=
  ⟨full_document_around, short_document_around⟩

/-- A sheet whose name opens a fence that nothing closes. -/
def fencedSheet : FactSheet :=
  { FactSheet.ofName "demo\n~~~" with features := ["one", "two"] }

/-- In a document that is one open fence, and for the slot itself as a description, the places
stay where they are. -/
theorem fenced_description_stands :
    (∃ before between after : String, ∀ description ∈ ["text", "~~~\n", descriptionSlot],
      fullDocument { fencedSheet with description := description } =
        before ++ description ++ between ++ description ++ after) ∧
    ∃ before after : String, ∀ description ∈ ["text", "~~~\n", descriptionSlot],
      shortDocument fencedSheet.name description fencedSheet.features =
        before ++ description ++ after := by
  have lacks : fencedSheet.LacksSlot :=
    { name := by decide
      badges := by decide
      features := by decide
      scripts := by decide
      listing := by decide
      routes := by decide
      environmentKeys := by decide
      dependencies := by decide }
  have described : ∀ description ∈ ["text", "~~~\n", descriptionSlot], description ≠ "" := by
    decide
  obtain ⟨before, between, after, stands⟩ := description_stands_verbatim.1 fencedSheet lacks
  obtain ⟨shortBefore, shortAfter, shortStands⟩ :=
    description_stands_verbatim.2 fencedSheet.name fencedSheet.features lacks.name lacks.features
  exact ⟨⟨before, between, after, fun text member => stands text (described text member)⟩,
    shortBefore, shortAfter, fun text member => shortStands text (described text member)⟩

end ReadmePress
