import ReadmePress.Proofs.Document.NormalForm

/-!
What tidying does between lines of text. It keeps every line that is not blank, with what the
line is to the fences, and changes nothing but how many blank lines stand between two of them;
how many that are is told by the fence that is open there, the number before and the lower line.
-/

namespace ReadmePress.Tidy

open ReadmePress.Text

/-- What a line is to the fences of its text. -/
inductive FenceRole where
  | outside
  | opener
  | inside
  | closer
  deriving DecidableEq, Repr

/-- What a line is where a fence is open, or none. -/
def fenceRole (fence : Option Fence) (line : List Char) : FenceRole :=
  match fence, marker? line with
  | none, none => .outside
  | none, some _ => .opener
  | some _, none => .inside
  | some opener, some marker => if closes opener marker then .closer else .inside

def blankLines (count : Nat) : List (List Char) := List.replicate count []

/-- The number of blank lines that tidied text has above a line of text, if it is not the first:
where a fence is open, as many as before; elsewhere one, if there was any or a heading follows. -/
def spacing (fence : Option Fence) (count : Nat) (below : List Char) : Nat :=
  match fence with
  | some _ => count
  | none => if 0 < count ∨ below.head? = some '#' then 1 else 0

/-- Lines that differ from others in blank lines alone. Places in the two are the same when the
same lines of text stand above them. -/
structure Respaced (lines shown : List (List Char)) : Prop where
  text : textLines shown = textLines lines
  role : ∀ above line below, lines = above ++ line :: below → line ≠ [] →
    ∃ shownAbove shownBelow, shown = shownAbove ++ line :: shownBelow ∧
      textLines shownAbove = textLines above ∧
      fenceRole (openFence shownAbove) line = fenceRole (openFence above) line
  between : ∀ above upper count lower below,
    lines = above ++ upper :: (blankLines count ++ lower :: below) → upper ≠ [] → lower ≠ [] →
    ∃ shownAbove shownBelow, shown = shownAbove ++ upper ::
        (blankLines (spacing (openFence (above ++ [upper])) count lower) ++ lower :: shownBelow) ∧
      textLines shownAbove = textLines above
  leading : ∀ count line below, lines = blankLines count ++ line :: below → line ≠ [] →
    ∃ shownBelow, shown = line :: shownBelow
  trailing : ∀ above line count, lines = above ++ line :: blankLines count → line ≠ [] →
    ∃ shownAbove, shown = shownAbove ++ [line]

theorem text_of_blanks (count : Nat) : textLines (blankLines count) = [] := by
  simp [textLines, blankLines]

theorem tidy_text_after_blank (fence : Option Fence) (line : List Char) (isText : line ≠ []) :
    tidyLine fence false line = [line] :=
  tidy_line_of_kept fence false line fun _ => text_is_kept line isText

/-- Where a fence is open, blank lines stay. -/
theorem tidy_blanks_in_fence (opener : Fence) (afterText : Bool) (count : Nat)
    (line : List Char) (below : List (List Char)) :
    tidyLines (some opener) afterText (blankLines count ++ line :: below) =
      blankLines count ++
        line :: tidyLines (fenceAfter (some opener) line) (!line.isEmpty) below := by
  induction count generalizing afterText with
  | zero => exact tidy_lines_cons (some opener) afterText line below
  | succ count induction =>
      rw [blankLines, List.replicate_succ, List.cons_append, tidy_lines_cons, fence_after_blank]
      exact congrArg ([] :: ·) (induction false)

/-- Where no fence is open and no text stands above them, blank lines go. -/
theorem tidy_blanks_outside (count : Nat) (below : List (List Char)) :
    tidyLines none false (blankLines count ++ below) = tidyLines none false below := by
  induction count with
  | zero => rfl
  | succ count induction =>
      rw [blankLines, List.replicate_succ, List.cons_append, tidy_lines_cons]
      exact induction

/-- Under a line of text, blank lines and the next line of text become that line with the blank
lines of its spacing above it. -/
theorem tidy_below_text (fence : Option Fence) (count : Nat) (lower : List Char)
    (below : List (List Char)) (isText : lower ≠ []) :
    tidyLines fence true (blankLines count ++ lower :: below) =
      blankLines (spacing fence count lower) ++
        lower :: tidyLines (fenceAfter fence lower) true below := by
  have text : (!lower.isEmpty) = true := by simpa using isText
  cases fence with
  | some opener => rw [tidy_blanks_in_fence, text, spacing]
  | none =>
      cases count with
      | zero =>
          rw [blankLines, List.replicate_zero, List.nil_append, tidy_lines_cons, text]
          rcases tidy_line_cases none true lower with
            ⟨same, kept⟩ | ⟨-, -, isBlank, -⟩ | ⟨parted, -, heading, -⟩
          · have noHeading : lower.head? ≠ some '#' :=
              fun head => absurd ((kept rfl).heading ⟨head⟩) (by decide)
            have none : spacing none 0 lower = 0 := by simp [spacing, noHeading]
            rw [same, none]
            rfl
          · exact absurd isBlank isText
          · have one : spacing none 0 lower = 1 := by simp [spacing, heading.head]
            rw [parted, one]
            rfl
      | succ count =>
          -- The first blank line stays; the others no longer follow text, so they go.
          have one : spacing none (count + 1) lower = 1 := by simp [spacing]
          have first : tidyLine none true [] = [[]] := rfl
          rw [one, blankLines, List.replicate_succ, List.cons_append, tidy_lines_cons, first,
            fence_after_blank, ← blankLines]
          have below := tidy_blanks_outside count (lower :: below)
          rw [tidy_lines_cons, tidy_text_after_blank none lower isText, text] at below
          exact congrArg ([] :: ·) below

theorem tidy_line_of_text (fence : Option Fence) (afterText : Bool) (line : List Char)
    (isText : line ≠ []) :
    ∃ gap, tidyLine fence afterText line = gap ++ [line] ∧ textLines gap = [] := by
  rcases tidy_line_cases fence afterText line with
    ⟨same, -⟩ | ⟨-, -, isBlank, -⟩ | ⟨parted, -, -, -⟩
  · exact ⟨[], same, rfl⟩
  · exact absurd isBlank isText
  · exact ⟨[[]], parted, rfl⟩

/-- A line of text is tidied in its place: the lines above it and those below it are tidied each
for themselves. -/
theorem tidy_lines_at (above below : List (List Char)) (line : List Char) (isText : line ≠ []) :
    ∃ shownAbove, tidyLines none false (above ++ line :: below) =
        shownAbove ++ line :: tidyLines (openFence (above ++ [line])) true below ∧
      textLines shownAbove = textLines above := by
  have text : (!line.isEmpty) = true := by simpa using isText
  obtain ⟨gap, tidied, noText⟩ := tidy_line_of_text (openFence above) (endsInText false above) line
    isText
  refine ⟨tidyLines none false above ++ gap, ?_, ?_⟩
  · rw [tidy_lines_append, tidy_lines_cons, ← openFence, tidied, text, open_fence_concat]
    simp only [List.append_assoc, List.cons_append, List.nil_append]
  · rw [text_lines_append, noText, List.append_nil, text_of_tidy_lines]

theorem drop_blanks_without_text (lines : List (List Char)) (noText : textLines lines = []) :
    dropLastBlanks lines = [] := by
  rcases drop_last_blanks_end lines with nothing | ⟨front, last, ends, isText⟩
  · exact nothing
  · have text := text_of_drop_last_blanks lines
    rw [ends, noText, text_lines_append] at text
    simp [textLines, isText] at text

/-- Tidying respaces lines. -/
theorem tidied_respaced (lines : List (List Char)) :
    Respaced lines (dropLastBlanks (tidyLines none false lines)) where
  text := by rw [text_of_drop_last_blanks, text_of_tidy_lines]
  role := by
    rintro above line below rfl isText
    obtain ⟨shownAbove, tidied, sameText⟩ := tidy_lines_at above below line isText
    have sameFence : openFence shownAbove = openFence above := by
      rw [openFence, openFence, ← fence_of_text_lines, sameText, fence_of_text_lines]
    rw [tidied, drop_last_blanks_append _ _ line (by simpa using isText)]
    exact ⟨shownAbove, _, rfl, sameText, by rw [sameFence]⟩
  between := by
    rintro above upper count lower below rfl upperText lowerText
    obtain ⟨shownAbove, tidied, sameText⟩ := tidy_lines_at above _ upper upperText
    rw [tidied, tidy_below_text _ count lower below lowerText,
      drop_last_blanks_append _ _ upper (by simpa using upperText),
      drop_last_blanks_append _ _ lower (by simpa using lowerText)]
    exact ⟨shownAbove, _, rfl, sameText⟩
  leading := by
    rintro count line below rfl isText
    rw [tidy_blanks_outside, tidy_lines_cons, tidy_text_after_blank none line isText]
    exact ⟨_, drop_last_blanks_append [] _ line (by simpa using isText)⟩
  trailing := by
    rintro above line count rfl isText
    obtain ⟨shownAbove, tidied, -⟩ := tidy_lines_at above _ line isText
    refine ⟨shownAbove, ?_⟩
    rw [tidied, drop_last_blanks_append _ _ line (by simpa using isText), drop_blanks_without_text]
    rw [text_of_tidy_lines, text_of_blanks]

theorem not_in_textless (lines : List (List Char)) (noText : textLines lines = [])
    (line : List Char) (isText : line ≠ []) : line ∉ lines := by
  intro member
  have inText : line ∈ textLines lines := List.mem_filter.mpr ⟨member, by simpa using isText⟩
  rw [noText] at inText
  exact absurd inText List.not_mem_nil

/-- Lines without text have no places to compare. -/
theorem respaced_of_textless (lines shown : List (List Char)) (noText : textLines lines = [])
    (noTextShown : textLines shown = []) : Respaced lines shown where
  text := noTextShown.trans noText.symm
  role := by
    rintro above line below rfl isText
    exact absurd (by simp) (not_in_textless _ noText line isText)
  between := by
    rintro above upper count lower below rfl isText -
    exact absurd (by simp) (not_in_textless _ noText upper isText)
  leading := by
    rintro count line below rfl isText
    exact absurd (by simp) (not_in_textless _ noText line isText)
  trailing := by
    rintro above line count rfl isText
    exact absurd (by simp) (not_in_textless _ noText line isText)

theorem tidied_lines_empty_iff (text : List Char) :
    tidiedLines text = [] ↔ textLines (trimmedLines text) = [] := by
  constructor
  · intro nothing
    rw [← text_of_tidied_lines, nothing]
    rfl
  · intro noText
    exact drop_blanks_without_text _ (by rw [text_of_tidy_lines, noText])

/-- Tidying changes blank lines alone: the lines of a tidied text are the lines of the text
without trailing blanks, respaced, and a text without any text becomes a single line feed. -/
theorem tidy_respaces (text : String) :
    Respaced (trimmedLines text.toList) (endedLines (tidy text)) ∧
      (tidy text = "\n" ↔ textLines (trimmedLines text.toList) = []) := by
  rw [← tidied_lines_empty_iff]
  by_cases nothing : tidiedLines text.toList = []
  · have tidied := tidy_blank_text text nothing
    refine ⟨?_, by simp [tidied, nothing]⟩
    rw [tidied]
    exact respaced_of_textless _ _ ((tidied_lines_empty_iff _).mp nothing) (by decide)
  · have lines := lines_of_tidy text nothing
    have ended : endedLines (tidy text) = tidiedLines text.toList := by
      rw [endedLines, lines, List.dropLast_concat]
    rw [ended]
    refine ⟨tidied_respaced _, ?_, fun noLines => absurd noLines nothing⟩
    intro single
    rcases drop_last_blanks_end (tidyLines none false (trimmedLines text.toList)) with
      noLines | ⟨front, last, ends, isText⟩
    · exact noLines
    · have onlyBlank : endedLines "\n" = [[]] := by decide
      have same : [[]] = front ++ [last] := by
        rw [← onlyBlank, ← single, ended]
        exact ends
      have isBlank : [] = last := by simpa using congrArg List.getLast? same
      exact absurd isBlank.symm isText

end ReadmePress.Tidy
