import ReadmePress.CommandLine.Run
import ReadmePress.Proofs.Document.Spacing
import ReadmePress.Proofs.Document.Switches

/-!
How the full document ends: with the phrase of the license section, whatever the facts, and one
line feed after it. So when it is shown, which replaces the line feeds at its end by one, nothing
is lost of it.
-/

namespace ReadmePress

open ReadmePress.Text

namespace Tidy

/-- A line of text at the end of a text is the last one that tidying keeps. -/
theorem tidied_ends (above : List (List Char)) (line : List Char) (isText : line ≠ []) :
    ∃ shownAbove,
      dropLastBlanks (tidyLines none false (above ++ line :: [[]])) = shownAbove ++ [line] := by
  obtain ⟨shownAbove, tidied, -⟩ := tidy_lines_at above [[]] line isText
  have blank : tidyLines (openFence (above ++ [line])) true [[]] = [[]] := by
    cases openFence (above ++ [line]) <;> rfl
  refine ⟨shownAbove, ?_⟩
  rw [tidied, blank, drop_last_blanks_append shownAbove [[]] line (by simpa using isText)]
  rfl

end Tidy

/-- The line that the document ends with. -/
def lastLine (language : Language) : List Char := language.placeholders.license.toList

theorem license_is_phrase (language : Language) :
    language.placeholders.license ∈ language.phrases := by
  simp [Language.phrases]

theorem last_line_is_text (language : Language) : lastLine language ≠ [] := by
  have phrase := phrases_known language _ (license_is_phrase language)
  intro isEmpty
  rw [← lastLine, isEmpty] at phrase
  exact absurd phrase (by decide)

theorem last_line_is_plain (language : Language) : PlainLine language.placeholders.license :=
  phrase_of_language_is_plain language _ (license_is_phrase language)

theorem last_line_ends (language : Language) :
    ∃ front last, lastLine language = front ++ [last] ∧ last ≠ '\n' := by
  rcases List.eq_nil_or_concat (lastLine language) with isEmpty | ⟨front, last, ends⟩
  · exact absurd isEmpty (last_line_is_text language)
  · rw [List.concat_eq_append] at ends
    have isLast : last ∈ lastLine language := by simp [ends]
    exact ⟨front, last, ends, ((last_line_is_plain language).oneLine last isLast).1⟩

theorem last_line_lacks_slot (language : Language) : LacksSlot (lastLine language) :=
  phrase_of_language_lacks_slot language _ (license_is_phrase language)

theorem last_section_lines (sheet : FactSheet) :
    partLines (sectionDraft sheet .license) =
      [[], headingLine sheet.options.language .license, lastLine sheet.options.language] := by
  have phrase (language : Language) :
      partLines (language.placeholders.license ++ "\n") = [lastLine language] := by
    have trimmed : trimEnd (lastLine language) = lastLine language := by
      cases language <;> decide +kernel
    rw [part_lines_one_line _ (last_line_is_plain language).oneLine, ← lastLine, trimmed]
  have body : sectionBody sheet .license = sheet.options.language.placeholders.license ++ "\n" :=
    rfl
  rw [sectionDraft, part_lines_append _ _ (whole_section_heading _), heading_part, body, phrase]
  rfl

theorem draft_ends (sheet : FactSheet) :
    ∃ above, Tidy.trimmedLines (fullDraft sheet).toList =
      above ++ lastLine sheet.options.language :: [[]] := by
  have sections : DocumentSection.all = DocumentSection.all.dropLast ++ [.license] := rfl
  rw [trimmed_lines_full_draft, part_lines_full_draft, sections, List.flatMap_append,
    List.flatMap_singleton, last_section_lines]
  refine ⟨partLines (leadDraft sheet) ++
    (DocumentSection.all.dropLast.flatMap (fun kind => partLines (sectionDraft sheet kind)) ++
      [[], headingLine sheet.options.language .license]), ?_⟩
  simp only [List.append_assoc, List.cons_append, List.nil_append]

/-- Whatever the facts, the last line of the document is that of the license section. -/
theorem document_ends (sheet : FactSheet) :
    ∃ above, (fullDocument sheet).toList =
      above ++ lastLine sheet.options.language ++ ['\n'] := by
  obtain ⟨above, draft⟩ := draft_ends sheet
  obtain ⟨shownAbove, tidied⟩ :=
    Tidy.tidied_ends above (lastLine sheet.options.language) (last_line_is_text _)
  have lines : Tidy.tidiedLines (fullDraft sheet).toList =
      shownAbove ++ [lastLine sheet.options.language] := by
    rw [Tidy.tidiedLines, draft, tidied]
  have notEmpty : Tidy.tidiedLines (fullDraft sheet).toList ≠ [] := by simp [lines]
  refine ⟨(filledText sheet.description shownAbove).toList, ?_⟩
  rw [fullDocument, finished_filled_text _ _ notEmpty, lines, filled_text_append,
    String.toList_append, filledText, filledText, String.toList_ofList, String.toList_ofList,
    List.flatMap_singleton, fill_lacking _ _ (last_line_lacks_slot _), List.append_assoc]

theorem document_not_empty (sheet : FactSheet) : fullDocument sheet ≠ "" := by
  obtain ⟨above, ends⟩ := document_ends sheet
  intro isEmpty
  simp [isEmpty] at ends

/-- The document is shown as it is. -/
theorem shown_document (sheet : FactSheet) :
    Command.shownText (fullDocument sheet) = fullDocument sheet := by
  obtain ⟨above, ends⟩ := document_ends sheet
  obtain ⟨front, last, isLast, notFeed⟩ := last_line_ends sheet.options.language
  rw [← String.toList_inj, Command.shownText, String.toList_append, String.toList_ofList, ends,
    isLast]
  simp [notFeed]

end ReadmePress
