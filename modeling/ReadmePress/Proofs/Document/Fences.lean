import ReadmePress.Document.Tidy
import ReadmePress.Proofs.Text.Splitting

/-!
What tidying does to lines. It adds and drops blank lines alone, so every line that is not blank
stays, in its order and with the same fence open around it; and a heading that comes after a
blank line has one before it afterwards.
-/

namespace ReadmePress.Tidy

open ReadmePress.Text

/-- The lines that are not blank. -/
def textLines (lines : List (List Char)) : List (List Char) :=
  lines.filter fun line => !line.isEmpty

/-- The fence that is open after lines. -/
def openFence (lines : List (List Char)) : Option Fence := lines.foldl fenceAfter none

theorem fence_after_blank (fence : Option Fence) : fenceAfter fence [] = fence := by
  cases fence <;> rfl

theorem open_fence_concat (above : List (List Char)) (line : List Char) :
    openFence (above ++ [line]) = fenceAfter (openFence above) line := by
  rw [openFence, List.foldl_append]
  rfl

/-- A line that is no marker leaves every fence as it is. -/
theorem fence_after_text (fence : Option Fence) (line : List Char)
    (noMarker : marker? line = none) :
    fenceAfter fence line = fence := by
  cases fence <;> simp [fenceAfter, noMarker]

theorem fence_of_text_lines (fence : Option Fence) (lines : List (List Char)) :
    (textLines lines).foldl fenceAfter fence = lines.foldl fenceAfter fence := by
  induction lines generalizing fence with
  | nil => rfl
  | cons line rest induction =>
      cases line with
      | nil =>
          rw [List.foldl_cons, fence_after_blank]
          exact induction fence
      | cons first more =>
          rw [List.foldl_cons]
          exact induction (fenceAfter fence (first :: more))

theorem text_lines_append (front back : List (List Char)) :
    textLines (front ++ back) = textLines front ++ textLines back :=
  List.filter_append ..

/-- Restating lines by a function that leaves a blank line blank. -/
theorem text_lines_map (restate : List Char → List Char) (blank : restate [] = [])
    (lines : List (List Char)) :
    textLines (lines.map restate) = textLines ((textLines lines).map restate) := by
  induction lines with
  | nil => rfl
  | cons line rest induction =>
      cases line with
      | nil =>
          have here : textLines ([] :: rest) = textLines rest := rfl
          have restated : textLines ([] :: rest.map restate) = textLines (rest.map restate) := rfl
          rw [List.map_cons, blank, here, restated]
          exact induction
      | cons first more =>
          have here : textLines ((first :: more) :: rest) =
            (first :: more) :: textLines rest := rfl
          rw [here, List.map_cons, List.map_cons]
          simp only [textLines, List.filter_cons] at induction ⊢
          rw [induction]

/-- What becomes of one line. -/
def tidyLine (fence : Option Fence) (afterText : Bool) (line : List Char) : List (List Char) :=
  if fence.isSome || (marker? line).isSome then [line]
  else if line.isEmpty then (if afterText then [[]] else [])
  else if isHeading line && afterText then [[], line]
  else [line]

theorem tidy_lines_cons (fence : Option Fence) (afterText : Bool) (line : List Char)
    (rest : List (List Char)) :
    tidyLines fence afterText (line :: rest) =
      tidyLine fence afterText line ++
        tidyLines (fenceAfter fence line) (!line.isEmpty) rest := by
  simp only [tidyLines, tidyLine]
  split
  · rfl
  · split
    next isBlank => split <;> simp [isBlank]
    next notBlank => split <;> simp [notBlank]

/-- Whether the last line, if there is one, is not blank. -/
def endsInText (afterText : Bool) (lines : List (List Char)) : Bool :=
  lines.foldl (fun _ line => !line.isEmpty) afterText

theorem ends_in_text_append (afterText : Bool) (front back : List (List Char)) :
    endsInText afterText (front ++ back) = endsInText (endsInText afterText front) back :=
  List.foldl_append ..

theorem ends_in_text_concat (afterText : Bool) (above : List (List Char)) (line : List Char) :
    endsInText afterText (above ++ [line]) = !line.isEmpty :=
  ends_in_text_append afterText above [line]

theorem tidy_lines_append (fence : Option Fence) (afterText : Bool)
    (front back : List (List Char)) :
    tidyLines fence afterText (front ++ back) =
      tidyLines fence afterText front ++
        tidyLines (front.foldl fenceAfter fence) (endsInText afterText front) back := by
  induction front generalizing fence afterText with
  | nil => rfl
  | cons line rest induction =>
      rw [List.cons_append, tidy_lines_cons, tidy_lines_cons, induction, List.append_assoc]
      rfl

theorem text_of_tidy_line (fence : Option Fence) (afterText : Bool) (line : List Char) :
    textLines (tidyLine fence afterText line) = textLines [line] := by
  unfold tidyLine
  split
  · rfl
  · split
    next isBlank =>
      rw [List.isEmpty_iff.mp isBlank]
      split <;> rfl
    next => split <;> rfl

/-- Tidying keeps every line that is not blank. -/
theorem text_of_tidy_lines (fence : Option Fence) (afterText : Bool)
    (lines : List (List Char)) :
    textLines (tidyLines fence afterText lines) = textLines lines := by
  induction lines generalizing fence afterText with
  | nil => rfl
  | cons line rest induction =>
      rw [tidy_lines_cons, text_lines_append, text_of_tidy_line, induction, ← text_lines_append]
      rfl

/-- Lines that end in a blank one end so after tidying, unless nothing is left of them. -/
theorem tidy_lines_end (fence : Option Fence) (afterText : Bool) (lines : List (List Char))
    (ends : endsInText afterText lines = false) :
    (tidyLines fence afterText lines = [] ∧ afterText = false) ∨
      ∃ front, tidyLines fence afterText lines = front ++ [[]] := by
  induction lines generalizing fence afterText with
  | nil => exact Or.inl ⟨rfl, ends⟩
  | cons line rest induction =>
      rw [tidy_lines_cons]
      rcases induction (fenceAfter fence line) (!line.isEmpty) ends with
        ⟨nothing, isBlank⟩ | ⟨front, last⟩
      · obtain rfl : line = [] := by simpa using isBlank
        rw [nothing, List.append_nil]
        unfold tidyLine
        split
        · exact Or.inr ⟨[], rfl⟩
        · cases afterText with
          | false => exact Or.inl ⟨rfl, rfl⟩
          | true => exact Or.inr ⟨[], rfl⟩
      · rw [last, ← List.append_assoc]
        exact Or.inr ⟨_, rfl⟩

/-- A line that begins with a number sign. -/
structure IsHeadingLine (line : List Char) : Prop where
  head : line.head? = some '#'

theorem heading_is_no_marker (line : List Char) (heading : IsHeadingLine line) :
    marker? line = none := by
  cases line with
  | nil => rfl
  | cons first rest =>
      obtain rfl : first = '#' := by simpa using heading.head
      rfl

theorem heading_ne_nil (line : List Char) (heading : IsHeadingLine line) : line ≠ [] := by
  rintro rfl
  exact absurd heading.head (by decide)

theorem heading_is_text (line : List Char) (heading : IsHeadingLine line) :
    line.isEmpty = false :=
  List.isEmpty_eq_false_iff.mpr (heading_ne_nil line heading)

theorem tidy_heading_after_blank (fence : Option Fence) (heading : List Char)
    (isHeading : IsHeadingLine heading) : tidyLine fence false heading = [heading] := by
  simp [tidyLine, heading_is_text heading isHeading]

/-- A heading after a blank line is tidied to a heading after one blank line, and the fence
around it stays. -/
theorem tidy_lines_heading (front rest : List (List Char)) (heading : List Char)
    (isHeading : IsHeadingLine heading) (text : textLines front ≠ []) :
    ∃ above, tidyLines none false (front ++ [] :: heading :: rest) =
        above ++ [] :: heading :: tidyLines (openFence front) true rest ∧
      textLines above = textLines front := by
  have sameText := text_of_tidy_lines none false front
  rw [tidy_lines_append, tidy_lines_cons, fence_after_blank, tidy_lines_cons,
    fence_after_text _ heading (heading_is_no_marker heading isHeading),
    heading_is_text heading isHeading]
  have notText : (!List.isEmpty ([] : List Char)) = false := rfl
  rw [notText, tidy_heading_after_blank _ heading isHeading]
  cases ends : endsInText false front with
  | true =>
      have blank : tidyLine (front.foldl fenceAfter none) true [] = [[]] := by
        simp [tidyLine, marker?]
      rw [blank]
      exact ⟨_, rfl, sameText⟩
  | false =>
      cases fence : front.foldl fenceAfter none with
      | some opener => exact ⟨_, by simp [tidyLine, openFence, fence], sameText⟩
      | none =>
          rcases tidy_lines_end none false front ends with ⟨nothing, -⟩ | ⟨above, last⟩
          · rw [nothing] at sameText
            exact absurd sameText.symm text
          · refine ⟨above, ?_, ?_⟩
            · simp [last, tidyLine, openFence, fence, marker?]
            · rw [← sameText, last, text_lines_append]
              exact (List.append_nil _).symm

theorem drop_last_blanks_append (front back : List (List Char)) (line : List Char)
    (text : line.isEmpty = false) :
    dropLastBlanks (front ++ line :: back) = front ++ line :: dropLastBlanks back := by
  induction front with
  | nil =>
      rw [List.nil_append, dropLastBlanks, List.nil_append]
      cases dropLastBlanks back with
      | nil => simp [text]
      | cons first more => rfl
  | cons first more induction =>
      rw [List.cons_append, dropLastBlanks, induction]
      cases more <;> rfl

theorem text_of_drop_last_blanks (lines : List (List Char)) :
    textLines (dropLastBlanks lines) = textLines lines := by
  induction lines with
  | nil => rfl
  | cons line rest induction =>
      have first : textLines (line :: rest) = textLines [line] ++ textLines rest :=
        text_lines_append [line] rest
      rw [first, ← induction, dropLastBlanks]
      cases dropLastBlanks rest with
      | nil => cases line <;> rfl
      | cons next more => exact text_lines_append [line] (next :: more)

theorem mem_of_drop_last_blanks (lines : List (List Char)) (line : List Char)
    (member : line ∈ dropLastBlanks lines) : line ∈ lines := by
  induction lines with
  | nil => simp [dropLastBlanks] at member
  | cons first rest induction =>
      rw [dropLastBlanks] at member
      split at member
      next =>
        split at member
        · simp at member
        · exact List.mem_cons.mpr (Or.inl (List.mem_singleton.mp member))
      next =>
        rcases List.mem_cons.mp member with rfl | isLater
        · exact List.mem_cons_self
        · exact List.mem_cons_of_mem _ (induction isLater)

theorem mem_of_tidy_lines (fence : Option Fence) (afterText : Bool)
    (lines : List (List Char)) (line : List Char)
    (member : line ∈ tidyLines fence afterText lines) (text : line ≠ []) : line ∈ lines := by
  have isText : line ∈ textLines (tidyLines fence afterText lines) :=
    List.mem_filter.mpr ⟨member, by simpa using text⟩
  rw [text_of_tidy_lines] at isText
  exact (List.mem_filter.mp isText).1

theorem trim_end_starts (text : List Char) : trimEnd text <+: text := by
  induction text with
  | nil => exact List.prefix_rfl
  | cons first rest induction =>
      rw [trimEnd]
      cases trimmed : trimEnd rest with
      | nil =>
          cases blank : isBlank first with
          | true => exact List.nil_prefix
          | false => exact List.prefix_append [first] rest
      | cons next more =>
          rw [trimmed] at induction
          exact List.cons_prefix_cons.mpr ⟨rfl, induction⟩

theorem trim_end_last (text : List Char) (last : Char) (ends : (trimEnd text).getLast? = some last) :
    isBlank last = false := by
  induction text with
  | nil => simp [trimEnd] at ends
  | cons first rest induction =>
      rw [trimEnd] at ends
      cases trimmed : trimEnd rest with
      | nil =>
          rw [trimmed] at ends
          cases blank : isBlank first with
          | true => simp [blank] at ends
          | false =>
              obtain rfl : first = last := by simpa [blank] using ends
              exact blank
      | cons next more =>
          rw [trimmed] at induction ends
          exact induction (by simpa [List.getLast?_cons_cons] using ends)

/-- A text without trailing blanks loses nothing. -/
theorem trim_end_of_last (text : List Char)
    (ends : ∀ last, text.getLast? = some last → isBlank last = false) : trimEnd text = text := by
  induction text with
  | nil => rfl
  | cons first rest induction =>
      cases rest with
      | nil => simp [trimEnd, ends first rfl]
      | cons next more =>
          have trimmed := induction fun last isLast => ends last (by rwa [List.getLast?_cons_cons])
          rw [trimEnd, trimmed]

theorem trimmed_line_is_one (text line : List Char) (member : line ∈ trimmedLines text) :
    '\n' ∉ line := by
  rw [trimmedLines, split_eq_split_on] at member
  obtain ⟨whole, isLine, rfl⟩ := List.mem_map.mp member
  exact fun inTrimmed =>
    separator_not_mem '\n' _ whole isLine ((trim_end_starts whole).subset inTrimmed)

theorem trimmed_line_occurs (text line : List Char) (member : line ∈ trimmedLines text) :
    line <:+: unifyNewlines text := by
  rw [trimmedLines, split_eq_split_on] at member
  obtain ⟨whole, isLine, rfl⟩ := List.mem_map.mp member
  exact (trim_end_starts whole).isInfix.trans (field_occurs '\n' _ whole isLine)

/-- The lines of a tidied text. -/
def tidiedLines (text : List Char) : List (List Char) :=
  dropLastBlanks (tidyLines none false (trimmedLines text))

theorem mem_of_tidied_lines (text line : List Char) (member : line ∈ tidiedLines text)
    (isText : line ≠ []) : line ∈ trimmedLines text :=
  mem_of_tidy_lines none false _ line (mem_of_drop_last_blanks _ line member) isText

theorem text_of_tidied_lines (text : List Char) :
    textLines (tidiedLines text) = textLines (trimmedLines text) := by
  rw [tidiedLines, text_of_drop_last_blanks, text_of_tidy_lines]

theorem tidied_line_is_one (text line : List Char) (member : line ∈ tidiedLines text) :
    '\n' ∉ line := by
  intro feed
  have isText : line ≠ [] := by
    rintro rfl
    simp at feed
  exact trimmed_line_is_one text line (mem_of_tidied_lines text line member isText) feed

end ReadmePress.Tidy
