import ReadmePress.Document.Layout
import ReadmePress.Proofs.Document.Fences

/-!
Parts of a draft. A draft is written in parts of whole lines; the lines of the parts, one after
the other, are the lines of the draft, and the fence that is open after a part depends on the
part and the fence before it alone.
-/

namespace ReadmePress

open ReadmePress.Text

/-- A text that ends with a line feed, unless it is empty. -/
def WholeLines (text : String) : Prop := ∀ last, text.toList.getLast? = some last → last = '\n'

theorem whole_lines_empty : WholeLines "" := by
  intro last ends
  simp at ends

theorem whole_lines_append (first second : String) (firstWhole : WholeLines first)
    (secondWhole : WholeLines second) : WholeLines (first ++ second) := by
  intro last ends
  rw [String.toList_append, List.getLast?_append] at ends
  cases secondEnds : second.toList.getLast? with
  | none =>
      rw [secondEnds, Option.none_or] at ends
      exact firstWhole last ends
  | some character =>
      rw [secondEnds, Option.some_or, Option.some.injEq] at ends
      rw [← ends]
      exact secondWhole character secondEnds

theorem whole_lines_join (texts : List String) (whole : ∀ text ∈ texts, WholeLines text) :
    WholeLines (String.join texts) := by
  induction texts with
  | nil => exact whole_lines_empty
  | cons text more induction =>
      rw [String.join_cons]
      exact whole_lines_append text _ (whole text List.mem_cons_self)
        (induction fun other member => whole other (List.mem_cons_of_mem text member))

theorem whole_lines_line (text : String) : WholeLines (text ++ "\n") := by
  intro last ends
  rw [String.toList_append, List.getLast?_append] at ends
  simpa using ends.symm

theorem whole_each_line (texts : List String) :
    ∀ line ∈ texts.map (· ++ "\n"), WholeLines line := by
  intro line member
  obtain ⟨text, -, rfl⟩ := List.mem_map.mp member
  exact whole_lines_line text

theorem list_items_lines (texts : List String) :
    listItems texts = String.join ((texts.map ("- " ++ ·)).map (· ++ "\n")) := by
  rw [listItems, List.map_map]
  rfl

/-- A code block is its opening, its text and its closing, each of whole lines. -/
theorem code_block_parts (info text : String) :
    codeBlock info text =
      ("\n" ++ "```" ++ info ++ "\n") ++ ((text ++ "\n") ++ ("```" ++ "\n")) := by
  simp only [codeBlock, String.append_assoc]

/-- The lines of a part of a draft, without trailing blanks. -/
def partLines (text : String) : List (List Char) := (Tidy.trimmedLines text.toList).dropLast

theorem trimmed_lines_append (first second : String) (whole : WholeLines first) :
    Tidy.trimmedLines (first ++ second).toList =
      partLines first ++ Tidy.trimmedLines second.toList := by
  rw [String.toList_append, partLines, Tidy.trimmedLines, Tidy.trimmedLines, Tidy.trimmedLines,
    split_eq_split_on, split_eq_split_on, split_eq_split_on]
  rcases List.eq_nil_or_concat first.toList with isEmpty | ⟨body, last, ends⟩
  · rw [isEmpty, List.nil_append]
    rfl
  · have isFeed : last = '\n' := whole last (by simp [ends])
    rw [ends, isFeed, List.concat_eq_append]
    obtain ⟨front, unified⟩ := unify_newlines_line_feed body
    rw [unify_newlines_append _ _ (by simp), unified, List.append_assoc,
      List.singleton_append, List.splitOn_append_cons_self, List.splitOn_append_cons_self,
      List.map_append, List.map_append, List.splitOn_nil]
    simp [trimEnd]

theorem trimmed_lines_of_whole (text : String) (whole : WholeLines text) :
    Tidy.trimmedLines text.toList = partLines text ++ [[]] := by
  have lines := trimmed_lines_append text "" whole
  rwa [String.append_empty] at lines

theorem part_lines_append (first second : String) (whole : WholeLines first) :
    partLines (first ++ second) = partLines first ++ partLines second := by
  have notEmpty : Tidy.trimmedLines second.toList ≠ [] := by
    simp [Tidy.trimmedLines, split_ne_nil]
  rw [partLines, trimmed_lines_append first second whole,
    List.dropLast_append_of_ne_nil notEmpty]
  rfl

theorem part_lines_join (texts : List String) (whole : ∀ text ∈ texts, WholeLines text) :
    partLines (String.join texts) = texts.flatMap partLines := by
  induction texts with
  | nil => rfl
  | cons text more induction =>
      rw [String.join_cons, part_lines_append text _ (whole text List.mem_cons_self),
        List.flatMap_cons,
        induction fun other member => whole other (List.mem_cons_of_mem text member)]

/-- A line of a draft as the document shows it: the slot for a description is taken out. -/
def shownLine (line : List Char) : List Char := replace descriptionSlot.toList [] line

/-- The lines of a part as the document shows them. -/
def shownLines (text : String) : List (List Char) := (partLines text).map shownLine

/-- The fence that is open after a part, given the one before it. -/
def fenceOver (fence : Option Tidy.Fence) (text : String) : Option Tidy.Fence :=
  (shownLines text).foldl Tidy.fenceAfter fence

/-- A part that leaves no fence open where none was open before. -/
def LeavesNoFence (text : String) : Prop := fenceOver none text = none

instance (text : String) : Decidable (LeavesNoFence text) :=
  inferInstanceAs (Decidable (fenceOver none text = none))

theorem fence_over_append (fence : Option Tidy.Fence) (first second : String)
    (whole : WholeLines first) :
    fenceOver fence (first ++ second) = fenceOver (fenceOver fence first) second := by
  rw [fenceOver, shownLines, part_lines_append first second whole, List.map_append,
    List.foldl_append]
  rfl

theorem fence_over_join (fence : Option Tidy.Fence) (texts : List String)
    (whole : ∀ text ∈ texts, WholeLines text) :
    fenceOver fence (String.join texts) = texts.foldl fenceOver fence := by
  induction texts generalizing fence with
  | nil => rfl
  | cons text more induction =>
      rw [String.join_cons, fence_over_append fence text _ (whole text List.mem_cons_self),
        induction _ fun other member => whole other (List.mem_cons_of_mem text member)]
      rfl

/-- The lines of a text between line feeds. -/
def linesOf (text : String) : List (List Char) := text.toList.splitOn '\n'

theorem intercalate_blank_end (lines : List (List Char)) (notEmpty : lines ≠ []) :
    ['\n'].intercalate (lines ++ [[]]) = ['\n'].intercalate lines ++ ['\n'] := by
  induction lines with
  | nil => exact absurd rfl notEmpty
  | cons line more induction =>
      cases more with
      | nil => simp
      | cons next others =>
          rw [List.cons_append, List.cons_append, List.intercalate_cons_cons,
            List.intercalate_cons_cons, ← List.cons_append, induction (by simp)]
          simp

/-- Lines that are each ended by a line feed are the lines of their text before an empty last
one. -/
theorem split_ended_lines (lines : List (List Char)) (notEmpty : lines ≠ [])
    (oneLine : ∀ line ∈ lines, '\n' ∉ line) :
    (['\n'].intercalate lines ++ ['\n']).splitOn '\n' = lines ++ [[]] := by
  rw [← intercalate_blank_end lines notEmpty]
  apply List.splitOn_intercalate '\n' _ (by simp)
  intro line member
  rcases List.mem_append.mp member with isLine | isLast
  · exact oneLine line isLine
  · simp [List.mem_singleton.mp isLast]

/-- A line of a draft with the description in its slots. -/
def filledLine (description : String) (line : List Char) : List Char :=
  replace descriptionSlot.toList description.toList line

/-- A finished document is the tidied lines of its draft with their slots filled. -/
theorem finished_text (draft description : String) :
    (finishDocument draft description).toList =
      ['\n'].intercalate ((Tidy.tidiedLines draft.toList).map (filledLine description)) ++
        ['\n'] := by
  have slotNotEmpty : descriptionSlot.toList ≠ [] := by decide
  have slotOneLine : '\n' ∉ descriptionSlot.toList := by decide
  rw [finishDocument, String.toList_ofList, Tidy.tidyChars, join_eq_intercalate, replace,
    replace_in_first_line _ _ _ [] 0 slotNotEmpty slotOneLine (Nat.zero_le _), ← replace,
    replace_in_lines _ _ _ slotNotEmpty slotOneLine]
  rfl

theorem filled_document_lines (draft description : String)
    (oneLine : '\n' ∉ description.toList) (notEmpty : Tidy.tidiedLines draft.toList ≠ []) :
    linesOf (finishDocument draft description) =
      (Tidy.tidiedLines draft.toList).map (filledLine description) ++ [[]] := by
  rw [linesOf, finished_text]
  apply split_ended_lines _ (by simpa using notEmpty)
  intro filled member feed
  obtain ⟨line, isLine, rfl⟩ := List.mem_map.mp member
  rcases mem_of_replaced _ _ line 0 '\n' feed with inLine | inDescription
  · exact Tidy.tidied_line_is_one draft.toList line isLine inLine
  · exact oneLine inDescription

/-- The lines of a finished document are the tidied lines of its draft with the slots taken out,
and an empty last one. -/
theorem finished_lines (draft : String)
    (notEmpty :
      Tidy.dropLastBlanks (Tidy.tidyLines none false (Tidy.trimmedLines draft.toList)) ≠ []) :
    linesOf (finishDocument draft "") =
      (Tidy.dropLastBlanks
        (Tidy.tidyLines none false (Tidy.trimmedLines draft.toList))).map shownLine ++ [[]] :=
  filled_document_lines draft "" (by decide) notEmpty

end ReadmePress
