import Mathlib.Data.List.Flatten
import ReadmePress.Proofs.Document.Switches

/-!
No heading is ever left out. Whatever the facts hold, even line ends, fence markers or the slot
of the description, the headings of the contents and of all sections are lines of the document,
in their order: tidying keeps every line of text, and a description that is filled in can only
add lines to those that its slot stands in.
-/

namespace ReadmePress

open ReadmePress.Text

/-- The headings of a document with these options, in order. Only the Chinese document has a
heading for its contents, where the options ask for them. -/
def documentHeadings (options : DocumentOptions) : List (List Char) :=
  (if options.toc = true ∧ options.language = .chinese then ["## 目录".toList] else [])
    ++ DocumentSection.all.map (headingLine options.language)

theorem lines_of_filled_text (description : String) (lines : List (List Char)) :
    linesOf (filledText description lines) =
      (lines.flatMap fun line => (filledLine description line).splitOn '\n') ++ [[]] := by
  rw [linesOf, filledText, String.toList_ofList]
  induction lines with
  | nil => rfl
  | cons line rest induction =>
      rw [List.flatMap_cons, List.append_assoc, List.singleton_append,
        List.splitOn_append_cons_self, induction, List.flatMap_cons, List.append_assoc]

/-- Lines that hold no slot are lines of the filled text, in their order. -/
theorem sublist_of_filled_text (description : String) (kept lines : List (List Char))
    (listed : kept.Sublist lines) (lacks : ∀ line ∈ kept, LacksSlot line)
    (oneLine : ∀ line ∈ kept, '\n' ∉ line) :
    kept.Sublist (linesOf (filledText description lines)) := by
  have unchanged : ∀ line ∈ kept, (filledLine description line).splitOn '\n' = [line] := by
    intro line member
    rw [fill_lacking description line (lacks line member)]
    exact List.splitOn_eq_singleton (oneLine line member)
  have shown : (kept.flatMap fun line => (filledLine description line).splitOn '\n') = kept := by
    rw [List.flatMap_congr unchanged]
    exact List.flatMap_singleton' kept
  rw [lines_of_filled_text, ← shown]
  exact (listed.flatMap _).trans (List.sublist_append_left _ _)

/-- Lines of text stay in their order when a text is tidied. -/
theorem sublist_of_tidied (text : List Char) (kept : List (List Char))
    (listed : kept.Sublist (Tidy.trimmedLines text)) (isText : ∀ line ∈ kept, line ≠ []) :
    kept.Sublist (Tidy.tidiedLines text) := by
  have onlyText : Tidy.textLines kept = kept := by
    apply List.filter_eq_self.mpr
    intro line member
    simpa using isText line member
  have inText : kept.Sublist (Tidy.textLines (Tidy.trimmedLines text)) := by
    rw [← onlyText]
    exact listed.filter _
  rw [← Tidy.text_of_tidied_lines] at inText
  exact inText.trans List.filter_sublist

theorem lead_headings (sheet : FactSheet) :
    (if sheet.options.toc = true ∧ sheet.options.language = .chinese then ["## 目录".toList]
      else []).Sublist (partLines (leadDraft sheet)) := by
  rw [leadDraft, part_lines_append _ _ (whole_lines_line _), part_lines_toc, tocLines]
  split
  next asked =>
    rw [if_pos ⟨asked.2, asked.1⟩]
    apply List.Sublist.trans _ (List.sublist_append_right _ _)
    have heading : lineOf "## 目录" = "## 目录".toList := by decide
    rw [heading]
    exact (List.sublist_append_left ["## 目录".toList] _).cons []
  next => exact List.nil_sublist _

theorem section_headings (sheet : FactSheet) :
    (DocumentSection.all.map (headingLine sheet.options.language)).Sublist
      (DocumentSection.all.flatMap fun kind => partLines (sectionDraft sheet kind)) := by
  have heading (kind : DocumentSection) :
      [headingLine sheet.options.language kind].Sublist (partLines (sectionDraft sheet kind)) := by
    rw [sectionDraft, part_lines_append _ _ (whole_section_heading _), heading_part]
    exact (List.sublist_append_left [_] _).cons []
  generalize DocumentSection.all = kinds
  induction kinds with
  | nil => exact List.nil_sublist _
  | cons kind rest induction => exact (heading kind).append induction

/-- What a heading has to be for tidying and filling to leave it alone. -/
theorem document_headings_known (options : DocumentOptions) :
    ∀ heading ∈ documentHeadings options,
      heading ≠ [] ∧ '\n' ∉ heading ∧ LacksSlot heading := by
  have contents : "## 目录".toList ≠ [] ∧ '\n' ∉ "## 目录".toList ∧ LacksSlot "## 目录".toList := by
    decide
  intro heading member
  rcases List.mem_append.mp member with inContents | inSections
  · split at inContents
    · rw [List.mem_singleton.mp inContents]
      exact contents
    · exact absurd inContents List.not_mem_nil
  · obtain ⟨kind, -, rfl⟩ := List.mem_map.mp inSections
    cases options.language <;> cases kind <;> decide

/-- Every document has all its headings as lines, in their order. -/
theorem document_keeps_headings (sheet : FactSheet) :
    (documentHeadings sheet.options).Sublist (linesOf (fullDocument sheet)) := by
  have known := document_headings_known sheet.options
  have drafted : (documentHeadings sheet.options).Sublist
      (Tidy.trimmedLines (fullDraft sheet).toList) := by
    rw [trimmed_lines_full_draft, part_lines_full_draft]
    exact ((lead_headings sheet).append (section_headings sheet)).trans
      (List.sublist_append_left _ _)
  have tidied := sublist_of_tidied _ _ drafted fun heading member => (known heading member).1
  have notEmpty : Tidy.tidiedLines (fullDraft sheet).toList ≠ [] := by
    intro nothing
    rw [nothing, List.sublist_nil] at tidied
    exact absurd tidied (by simp [documentHeadings, DocumentSection.all])
  rw [fullDocument, finished_filled_text _ _ notEmpty]
  exact sublist_of_filled_text _ _ _ tidied (fun heading member => (known heading member).2.2)
    fun heading member => (known heading member).2.1

end ReadmePress
