import ReadmePress.Proofs.Document.ManifestLines
import ReadmePress.Proofs.Document.PhraseTexts
import ReadmePress.Proofs.Facts.Collection

/-!
Facts that leave no fence open. Texts without line ends stay in the lines they are pasted into,
and those lines are plain; the listing stands in a code block, and its lines do not close the
block unless one of them begins with the marker.
-/

namespace ReadmePress

open ReadmePress.Text

/-- Pasted texts that each stay in their line, and a listing that stays in its code block. -/
structure FactSheet.Plain (sheet : FactSheet) : Prop where
  name : OneLine sheet.name
  features : ∀ feature ∈ sheet.features, OneLine feature
  scripts : ∀ entry ∈ sheet.scripts.getD [], OneLine entry.1 ∧ OneLine entry.2
  listing : ∀ line ∈ shownLines (sheet.listing ++ "\n"), ¬ "```".toList <+: line
  routes : ∀ route ∈ sheet.routes, OneLine route
  dependencies : ∀ entry ∈ sheet.dependencies.getD [], OneLine entry.1 ∧ OneLine entry.2

theorem stack_lines_one_line (dependencies : Option (List (String × String)))
    (oneLine : ∀ entry ∈ dependencies.getD [], OneLine entry.1 ∧ OneLine entry.2) :
    ∀ line ∈ stackLines dependencies, OneLine line := by
  intro line member
  obtain ⟨entry, isEntry, rfl⟩ := stack_line_of_entry dependencies line member
  obtain ⟨name, version⟩ := oneLine entry isEntry
  exact one_line_append _ _ (one_line_append _ _ name (by decide)) version

theorem list_or_leaves_no_fence (phrase : String) (texts : List String)
    (phraseOneLine : OneLine phrase) (oneLine : ∀ text ∈ texts, OneLine text) :
    LeavesNoFence (listOr phrase texts) := by
  apply fence_over_list_items none
  split
  · simpa using phraseOneLine
  · exact oneLine

theorem script_text_stays (scripts : Option (List (String × String))) (language : Language)
    (oneLine : ∀ entry ∈ scripts.getD [], OneLine entry.1 ∧ OneLine entry.2) :
    fenceOver (some codeFence) (scriptText scripts language ++ "\n") = some codeFence := by
  rw [script_text_lines]
  apply fence_over_plain_lines
  intro text member
  rcases mem_script_texts scripts language text member with rfl | ⟨entry, isEntry, rfl⟩
  · exact phrase_of_language_is_plain language _ (by simp [Language.phrases])
  · exact script_is_plain entry (oneLine entry isEntry)

theorem toc_leaves_no_fence (options : DocumentOptions) : LeavesNoFence (tocDraft options) := by
  rw [toc_draft_eq]
  split
  next =>
    have heading : fenceOver none (sectionHeading "目录") = none := by decide
    rw [LeavesNoFence, fence_over_append _ _ _ (whole_section_heading _), heading]
    exact fence_over_list_items none _ fun item member =>
      (phrase_is_plain item (toc_items_known item member)).oneLine
  next => decide

/-- The lead leaves no fence open when the name is one line. -/
theorem lead_leaves_no_fence (sheet : FactSheet) (name : OneLine sheet.name)
    (badges : sheet.badges = "" ∨ PlainLine sheet.badges)
    (noDescription : sheet.description = "") : LeavesNoFence (leadDraft sheet) := by
  have title : PlainLine ("# " ++ sheet.name) :=
    plain_line_append "# " _ ⟨by decide, by decide⟩ name
  have blank : fenceOver none "\n" = none := by decide
  have blankWhole : WholeLines "\n" := whole_lines_line ""
  have description : fenceOver none
      (sheet.options.language.placeholders.description ++ "\n") = none :=
    fence_over_plain_line none _
      (phrase_of_language_is_plain sheet.options.language _ (by simp [Language.phrases]))
  have badgesBlock : fenceOver none (badgesDraft sheet) = none := by
    rw [badgesDraft]
    split
    next shown =>
      simp only [Bool.and_eq_true, bne_iff_ne] at shown
      have line := badges.resolve_left shown.2
      rw [String.append_assoc, fence_over_append _ _ _ blankWhole, blank]
      exact fence_over_plain_line none _ line
    next => exact blank
  have lines : leadDraft sheet = ("# " ++ sheet.name ++ "\n") ++ (badgesDraft sheet ++ ("\n"
      ++ ((sheet.options.language.placeholders.description ++ "\n")
      ++ tocDraft sheet.options))) := by
    rw [leadDraft, descriptionOr, if_pos noDescription]
    simp only [String.append_assoc]
  rw [LeavesNoFence, lines, fence_over_append _ _ _ (whole_lines_line _),
    fence_over_plain_line _ _ title, fence_over_append _ _ _ (whole_badges_draft sheet), badgesBlock,
    fence_over_append _ _ _ blankWhole, blank,
    fence_over_append _ _ _ (whole_lines_line _), description]
  exact toc_leaves_no_fence sheet.options

theorem body_leaves_no_fence (sheet : FactSheet) (plain : sheet.Plain)
    (keys : ∀ key ∈ sheet.environmentKeys, IsKey key) (noDescription : sheet.description = "")
    (kind : DocumentSection) : LeavesNoFence (sectionBody sheet kind) := by
  have phrases := phrase_of_language_is_plain sheet.options.language
  cases kind with
  | intro =>
      have body : sectionBody sheet .intro =
          descriptionOr sheet.options.language.placeholders.intro sheet ++ "\n" := rfl
      rw [body, descriptionOr, if_pos noDescription]
      exact fence_over_plain_line none _ (phrases _ (by simp [Language.phrases]))
  | features =>
      apply fence_over_list_items none
      split
      · exact fun feature member => (phrases feature (feature_is_phrase _ feature member)).oneLine
      · exact plain.features
  | quickstart =>
      apply code_block_leaves_no_fence "bash" _ (Or.inr rfl)
      cases sheet.options.language <;> decide
  | scripts =>
      exact code_block_leaves_no_fence "bash" _ (Or.inr rfl)
        (script_text_stays sheet.scripts _ plain.scripts)
  | listing =>
      exact code_block_leaves_no_fence "" _ (Or.inl rfl)
        (stays_in_code_block_over _ plain.listing)
  | api =>
      exact list_or_leaves_no_fence _ _ (phrases _ (by simp [Language.phrases])).oneLine plain.routes
  | environment =>
      apply list_or_leaves_no_fence _ _ (phrases _ (by simp [Language.phrases])).oneLine
      intro line member
      obtain ⟨key, isListed, rfl⟩ := List.mem_map.mp member
      exact one_line_append _ _ (one_line_append _ _
        (key_is_one_line key (keys key isListed)) (by decide))
        (phrases _ (by simp [Language.phrases])).oneLine
  | stack =>
      exact list_or_leaves_no_fence _ _ (phrases _ (by simp [Language.phrases])).oneLine
        (stack_lines_one_line sheet.dependencies plain.dependencies)
  | license => exact fence_over_plain_line none _ (phrases _ (by simp [Language.phrases]))

end ReadmePress
