import ReadmePress.Proofs.Document.Parts

/-!
The headings of the full document. Each of them is a line of its own after a blank one, at the
place where the draft has it, and it stands outside every code fence unless a part of the draft
above it leaves one open. Facts are written into the parts as they are, so facts can do that.
-/

namespace ReadmePress

open ReadmePress.Text

/-- The line of a heading. -/
def headingLine (language : Language) (kind : DocumentSection) : List Char :=
  ("## " ++ kind.title language).toList

/-- The part of the draft above all sections: title, badges, description and contents. -/
def leadDraft (sheet : FactSheet) : String :=
  "# " ++ sheet.name ++ "\n" ++ badgesDraft sheet ++ "\n"
    ++ descriptionOr sheet.options.language.placeholders.description sheet ++ "\n"
    ++ tocDraft sheet.options

/-- The draft above the heading of a section. -/
def draftAbove (sheet : FactSheet) (kind : DocumentSection) : String :=
  leadDraft sheet
    ++ String.join ((DocumentSection.all.takeWhile (· != kind)).map (sectionDraft sheet))

theorem whole_list_items (texts : List String) : WholeLines (listItems texts) := by
  rw [list_items_lines]
  exact whole_lines_join _ (whole_each_line _)

theorem whole_code_block (info text : String) : WholeLines (codeBlock info text) :=
  whole_lines_line _

theorem whole_section_heading (title : String) : WholeLines (sectionHeading title) :=
  whole_lines_line _

theorem whole_section_body (sheet : FactSheet) (kind : DocumentSection) :
    WholeLines (sectionBody sheet kind) := by
  cases kind with
  | intro => exact whole_lines_line _
  | features => exact whole_list_items _
  | quickstart => exact whole_code_block _ _
  | scripts => exact whole_code_block _ _
  | listing => exact whole_code_block _ _
  | api => exact whole_list_items _
  | environment => exact whole_list_items _
  | stack => exact whole_list_items _
  | license => exact whole_lines_line _

theorem whole_section_draft (sheet : FactSheet) (kind : DocumentSection) :
    WholeLines (sectionDraft sheet kind) :=
  whole_lines_append _ _ (whole_section_heading _) (whole_section_body sheet kind)

theorem whole_toc_draft (options : DocumentOptions) : WholeLines (tocDraft options) := by
  unfold tocDraft
  split
  next title _ =>
    split
    · exact whole_lines_append _ _ (whole_section_heading title) (whole_list_items _)
    · exact whole_lines_empty
  next => exact whole_lines_empty

theorem whole_badges_draft (sheet : FactSheet) : WholeLines (badgesDraft sheet) := by
  rw [badgesDraft]
  split
  · exact whole_lines_line _
  · exact whole_lines_empty

theorem whole_lead_draft (sheet : FactSheet) : WholeLines (leadDraft sheet) :=
  whole_lines_append _ _ (whole_lines_line _) (whole_toc_draft sheet.options)

theorem whole_sections (sheet : FactSheet) (kinds : List DocumentSection) :
    ∀ text ∈ kinds.map (sectionDraft sheet), WholeLines text := by
  intro text member
  obtain ⟨kind, -, rfl⟩ := List.mem_map.mp member
  exact whole_section_draft sheet kind

theorem whole_draft_above (sheet : FactSheet) (kind : DocumentSection) :
    WholeLines (draftAbove sheet kind) :=
  whole_lines_append _ _ (whole_lead_draft sheet)
    (whole_lines_join _ (whole_sections sheet _))

/-- The heading of a section follows the draft above it. -/
theorem full_draft_at (sheet : FactSheet) (kind : DocumentSection) :
    ∃ below, fullDraft sheet =
      draftAbove sheet kind ++
        (sectionHeading (kind.title sheet.options.language) ++ below) := by
  obtain ⟨after, sections⟩ : ∃ after, DocumentSection.all =
      DocumentSection.all.takeWhile (· != kind) ++ kind :: after := by
    cases kind <;> exact ⟨_, rfl⟩
  have drafts : String.join (DocumentSection.all.map (sectionDraft sheet)) =
      String.join ((DocumentSection.all.takeWhile (· != kind)).map (sectionDraft sheet)) ++
        (sectionDraft sheet kind ++ String.join (after.map (sectionDraft sheet))) := by
    rw [← String.join_cons, ← List.map_cons, ← String.join_append, ← List.map_append, ← sections]
  refine ⟨sectionBody sheet kind ++ String.join (after.map (sectionDraft sheet)), ?_⟩
  have whole : fullDraft sheet =
      leadDraft sheet ++ String.join (DocumentSection.all.map (sectionDraft sheet)) := rfl
  rw [whole, drafts, draftAbove, sectionDraft]
  simp only [String.append_assoc]

theorem heading_part (language : Language) (kind : DocumentSection) :
    partLines (sectionHeading (kind.title language)) = [[], headingLine language kind] := by
  cases language <;> cases kind <;> decide

theorem heading_is_shown (language : Language) (kind : DocumentSection) :
    shownLine (headingLine language kind) = headingLine language kind := by
  cases language <;> cases kind <;> decide

theorem heading_is_heading (language : Language) (kind : DocumentSection) :
    Tidy.IsHeadingLine (headingLine language kind) := by
  cases language <;> cases kind <;> exact ⟨rfl⟩

/-- A text that does not begin with a blank or the end of a line has a first line that is not
blank. -/
theorem trimmed_lines_start (first : Char) (rest : List Char) (notBlank : isBlank first = false) :
    ∃ more others, Tidy.trimmedLines (first :: rest) = (first :: more) :: others := by
  have notReturn : first ≠ '\r' := by
    rintro rfl
    exact absurd notBlank (by decide)
  have notFeed : first ≠ '\n' := by
    rintro rfl
    exact absurd notBlank (by decide)
  rw [Tidy.trimmedLines, unify_newlines_cons first rest notReturn, split, if_neg notFeed]
  cases fields : split '\n' (unifyNewlines rest) with
  | nil => exact absurd fields (split_ne_nil _ _)
  | cons field more =>
      rw [List.map_cons, trimEnd]
      cases trimmed : trimEnd field with
      | nil => exact ⟨[], more.map trimEnd, by simp [notBlank]⟩
      | cons second others => exact ⟨second :: others, more.map trimEnd, rfl⟩

theorem part_lines_start (text : String) (first : Char) (rest : List Char)
    (starts : text.toList = first :: rest) (notBlank : isBlank first = false)
    (whole : WholeLines text) :
    ∃ more others, partLines text = (first :: more) :: others := by
  obtain ⟨more, others, lines⟩ := trimmed_lines_start first rest notBlank
  have parts := trimmed_lines_append text "" whole
  rw [String.append_empty, starts, lines] at parts
  cases part : partLines text with
  | nil =>
      rw [part] at parts
      simp [Tidy.trimmedLines, split, unifyNewlines, trimEnd] at parts
  | cons line lines =>
      rw [part, List.cons_append, List.cons.injEq] at parts
      exact ⟨more, lines, by rw [parts.1]⟩

theorem lead_has_text (sheet : FactSheet) :
    Tidy.textLines (partLines (leadDraft sheet)) ≠ [] := by
  have whole := whole_lines_line ("# " ++ sheet.name)
  obtain ⟨more, others, title⟩ := part_lines_start ("# " ++ sheet.name ++ "\n") '#'
    (" ".toList ++ sheet.name.toList ++ ['\n']) (by simp) (by decide) whole
  have lead : leadDraft sheet = ("# " ++ sheet.name ++ "\n") ++ (badgesDraft sheet ++ ("\n"
      ++ (descriptionOr sheet.options.language.placeholders.description sheet ++ ("\n"
      ++ tocDraft sheet.options)))) := by
    simp only [leadDraft, String.append_assoc]
  rw [lead, part_lines_append _ _ whole, title, Tidy.text_lines_append]
  simp [Tidy.textLines]

theorem text_above_heading (sheet : FactSheet) (kind : DocumentSection) :
    Tidy.textLines (partLines (draftAbove sheet kind)) ≠ [] := by
  rw [draftAbove, part_lines_append _ _ (whole_lead_draft sheet), Tidy.text_lines_append]
  exact List.append_ne_nil_of_left_ne_nil (lead_has_text sheet) _

/-- Every heading is a line of the document after a blank line, and above it are the lines that
the draft has above it, some blank ones apart. -/
theorem document_heading (sheet : FactSheet) (noDescription : sheet.description = "")
    (kind : DocumentSection) :
    ∃ above below, linesOf (fullDocument sheet) =
        above ++ [] :: headingLine sheet.options.language kind :: below ∧
      Tidy.textLines above = Tidy.textLines (shownLines (draftAbove sheet kind)) := by
  have heading := heading_is_heading sheet.options.language kind
  obtain ⟨below, draft⟩ := full_draft_at sheet kind
  have lines : Tidy.trimmedLines (fullDraft sheet).toList =
      partLines (draftAbove sheet kind) ++
        [] :: headingLine sheet.options.language kind :: Tidy.trimmedLines below.toList := by
    rw [draft, trimmed_lines_append _ _ (whole_draft_above sheet kind),
      trimmed_lines_append _ _ (whole_section_heading _), heading_part]
    rfl
  obtain ⟨above, tidied, sameText⟩ := Tidy.tidy_lines_heading (partLines (draftAbove sheet kind))
    (Tidy.trimmedLines below.toList) _ heading (text_above_heading sheet kind)
  rw [← lines] at tidied
  obtain ⟨after, kept⟩ : ∃ after, Tidy.dropLastBlanks
      (Tidy.tidyLines none false (Tidy.trimmedLines (fullDraft sheet).toList)) =
        above ++ [] :: headingLine sheet.options.language kind :: after := by
    have split := Tidy.drop_last_blanks_append (above ++ [[]])
      (Tidy.tidyLines (Tidy.openFence (partLines (draftAbove sheet kind))) true
        (Tidy.trimmedLines below.toList))
      (headingLine sheet.options.language kind) (Tidy.heading_is_text _ heading)
    rw [List.append_assoc, List.append_assoc] at split
    rw [tidied]
    exact ⟨_, split⟩
  have blank : shownLine [] = [] := rfl
  have finished := finished_lines (fullDraft sheet) (by rw [kept]; simp)
  rw [kept, List.map_append, List.map_cons, List.map_cons, heading_is_shown, blank,
    List.append_assoc] at finished
  refine ⟨above.map shownLine, after.map shownLine ++ [[]], ?_, ?_⟩
  · rw [fullDocument, noDescription]
    exact finished
  · rw [Tidy.text_lines_map shownLine blank above, sameText,
      ← Tidy.text_lines_map shownLine blank]
    rfl

theorem part_lines_full_draft (sheet : FactSheet) :
    partLines (fullDraft sheet) =
      partLines (leadDraft sheet) ++
        DocumentSection.all.flatMap fun kind => partLines (sectionDraft sheet kind) := by
  have parts : fullDraft sheet =
      leadDraft sheet ++ String.join (DocumentSection.all.map (sectionDraft sheet)) := rfl
  rw [parts, part_lines_append _ _ (whole_lead_draft sheet),
    part_lines_join _ (whole_sections sheet _), List.flatMap_map]

theorem trimmed_lines_full_draft (sheet : FactSheet) :
    Tidy.trimmedLines (fullDraft sheet).toList = partLines (fullDraft sheet) ++ [[]] :=
  trimmed_lines_of_whole _ <|
    whole_lines_append _ _ (whole_lead_draft sheet) (whole_lines_join _ (whole_sections sheet _))

/-- The lines of the document are those of the parts of the draft, some blank ones apart. -/
theorem document_text_lines (sheet : FactSheet) (noDescription : sheet.description = "") :
    Tidy.textLines (linesOf (fullDocument sheet)) =
      Tidy.textLines (shownLines (leadDraft sheet) ++
        DocumentSection.all.flatMap fun kind => shownLines (sectionDraft sheet kind)) := by
  have blank : shownLine [] = [] := rfl
  have kept : Tidy.textLines (Tidy.dropLastBlanks
      (Tidy.tidyLines none false (Tidy.trimmedLines (fullDraft sheet).toList))) =
        Tidy.textLines (partLines (fullDraft sheet)) := by
    rw [Tidy.text_of_drop_last_blanks, Tidy.text_of_tidy_lines, trimmed_lines_full_draft,
      Tidy.text_lines_append]
    exact List.append_nil _
  have notEmpty : Tidy.dropLastBlanks
      (Tidy.tidyLines none false (Tidy.trimmedLines (fullDraft sheet).toList)) ≠ [] := by
    intro nothing
    rw [nothing, part_lines_full_draft, Tidy.text_lines_append] at kept
    exact lead_has_text sheet (List.append_eq_nil_iff.mp kept.symm).1
  have shown := finished_lines (fullDraft sheet) notEmpty
  rw [fullDocument, noDescription, shown, Tidy.text_lines_append,
    Tidy.text_lines_map shownLine blank, kept, ← Tidy.text_lines_map shownLine blank,
    part_lines_full_draft, List.map_append, List.map_flatMap]
  exact List.append_nil _

theorem fence_over_heading (fence : Option Tidy.Fence) (language : Language)
    (kind : DocumentSection) :
    fenceOver fence (sectionHeading (kind.title language)) = fence := by
  have noMarker := Tidy.heading_is_no_marker _ (heading_is_heading language kind)
  have blank : shownLine [] = [] := rfl
  rw [fenceOver, shownLines, heading_part, List.map_cons, List.map_cons, heading_is_shown, blank,
    List.foldl_cons, List.foldl_cons, Tidy.fence_after_blank,
    Tidy.fence_after_text fence _ noMarker]
  rfl

theorem fence_over_section (fence : Option Tidy.Fence) (sheet : FactSheet)
    (kind : DocumentSection) :
    fenceOver fence (sectionDraft sheet kind) = fenceOver fence (sectionBody sheet kind) := by
  rw [sectionDraft, fence_over_append _ _ _ (whole_section_heading _), fence_over_heading]

/-- The fence above a heading comes from the lead and the bodies of the sections above. -/
theorem fence_above (sheet : FactSheet) (kind : DocumentSection) :
    fenceOver none (draftAbove sheet kind) =
      (DocumentSection.all.takeWhile (· != kind)).foldl
        (fun fence above => fenceOver fence (sectionBody sheet above))
        (fenceOver none (leadDraft sheet)) := by
  rw [draftAbove, fence_over_append _ _ _ (whole_lead_draft sheet),
    fence_over_join _ _ (whole_sections sheet _), List.foldl_map]
  simp only [fence_over_section]

/-- Along a list of parts no fence is open before any of them exactly when no part but the last
leaves one open. -/
theorem unfenced_along_iff (sheet : FactSheet) (first : DocumentSection)
    (more : List DocumentSection) (distinct : (first :: more).Nodup) :
    (∀ kind ∈ first :: more, ((first :: more).takeWhile (· != kind)).foldl
        (fun fence above => fenceOver fence (sectionBody sheet above)) none = none) ↔
      ∀ kind ∈ (first :: more).dropLast, LeavesNoFence (sectionBody sheet kind) := by
  induction more generalizing first with
  | nil => simp
  | cons second others induction =>
      obtain ⟨notLater, distinctLater⟩ := List.nodup_cons.mp distinct
      have later : ∀ kind ∈ second :: others,
          (first :: second :: others).takeWhile (· != kind) =
            first :: (second :: others).takeWhile (· != kind) := by
        intro kind member
        have different : first ≠ kind := fun same => notLater (same ▸ member)
        rw [List.takeWhile_cons, if_pos (by simpa using different)]
      have atSecond : (second :: others).takeWhile (· != second) = [] := by simp
      have remaining := induction second distinctLater
      rw [List.dropLast_cons_cons]
      constructor
      · intro unfenced
        have body := unfenced second (by simp)
        rw [later second List.mem_cons_self, atSecond, List.foldl_cons, List.foldl_nil] at body
        refine List.forall_mem_cons.mpr ⟨body, remaining.mp ?_⟩
        intro kind member
        have here := unfenced kind (List.mem_cons_of_mem first member)
        rw [later kind member, List.foldl_cons, body] at here
        exact here
      · intro leaves kind member
        obtain ⟨body, leavesLater⟩ := List.forall_mem_cons.mp leaves
        rcases List.mem_cons.mp member with rfl | isLater
        · simp
        · rw [later kind isLater, List.foldl_cons, body]
          exact remaining.mpr leavesLater kind isLater

/-- No heading stands in a fence exactly when no part above the last heading leaves one open. -/
theorem headings_unfenced_iff (sheet : FactSheet) :
    (∀ kind, fenceOver none (draftAbove sheet kind) = none) ↔
      LeavesNoFence (leadDraft sheet) ∧
        ∀ kind, kind ≠ .license → LeavesNoFence (sectionBody sheet kind) := by
  have everyKind : ∀ kind, kind ∈ DocumentSection.all := by
    intro kind
    cases kind <;> decide
  have lastKind : ∀ kind, kind ∈ DocumentSection.all.dropLast ↔ kind ≠ .license := by
    intro kind
    cases kind <;> decide
  have bodies := unfenced_along_iff sheet .intro DocumentSection.all.tail (by decide)
  have kinds : DocumentSection.intro :: DocumentSection.all.tail = DocumentSection.all := rfl
  rw [kinds] at bodies
  simp only [everyKind, lastKind, forall_const] at bodies
  have nothing : DocumentSection.all.takeWhile (· != .intro) = [] := by decide
  constructor
  · intro unfenced
    have lead := unfenced .intro
    rw [fence_above, nothing, List.foldl_nil] at lead
    refine ⟨lead, bodies.mp ?_⟩
    intro kind
    have here := unfenced kind
    rw [fence_above, lead] at here
    exact here
  · rintro ⟨lead, leaves⟩ kind
    rw [fence_above, lead]
    exact bodies.mpr leaves kind

end ReadmePress
