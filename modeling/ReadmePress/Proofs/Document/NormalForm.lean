import ReadmePress.Proofs.Document.Parts

/-!
The form that tidying gives a text, and the texts it leaves as they are: they are the same. The
form is stated by what the lines of a text are, not by how tidying arrives at them.
-/

namespace ReadmePress.Tidy

open ReadmePress.Text

/-- A line that tidying keeps where no fence is open: a blank line comes after text, a heading
does not. -/
structure KeptLine (afterText : Bool) (line : List Char) : Prop where
  blank : line = [] → afterText = true
  heading : IsHeadingLine line → afterText = false

theorem blank_is_kept : KeptLine true [] :=
  ⟨fun _ => rfl, fun heading => absurd rfl (heading_ne_nil [] heading)⟩

theorem text_is_kept (line : List Char) (isText : line ≠ []) : KeptLine false line :=
  ⟨fun isBlank => absurd isBlank isText, fun _ => rfl⟩

theorem prose_is_kept (afterText : Bool) (line : List Char) (isText : line ≠ [])
    (noHeading : ¬ IsHeadingLine line) : KeptLine afterText line :=
  ⟨fun isBlank => absurd isBlank isText, fun heading => absurd heading noHeading⟩

/-- Every line that no fence is open around is one that tidying keeps. -/
def Settled (fence : Option Fence) (afterText : Bool) : List (List Char) → Prop
  | [] => True
  | line :: rest =>
      (fence = none → KeptLine afterText line) ∧
        Settled (fenceAfter fence line) (!line.isEmpty) rest

theorem settled_append (fence : Option Fence) (afterText : Bool)
    (front back : List (List Char)) :
    Settled fence afterText (front ++ back) ↔
      Settled fence afterText front ∧
        Settled (front.foldl fenceAfter fence) (endsInText afterText front) back := by
  induction front generalizing fence afterText with
  | nil => simp [Settled, endsInText]
  | cons line rest induction =>
      rw [List.cons_append, Settled, Settled, induction, and_assoc]
      rfl

theorem is_heading_iff (line : List Char) : isHeading line = true ↔ IsHeadingLine line := by
  rw [isHeading, beq_iff_eq]
  exact ⟨IsHeadingLine.mk, IsHeadingLine.head⟩

/-- What becomes of a line: it stays, a blank line that follows no text goes, or a heading that
follows text gets a blank line. -/
theorem tidy_line_cases (fence : Option Fence) (afterText : Bool) (line : List Char) :
    (tidyLine fence afterText line = [line] ∧ (fence = none → KeptLine afterText line)) ∨
      (tidyLine fence afterText line = [] ∧ fence = none ∧ line = [] ∧ afterText = false) ∨
      (tidyLine fence afterText line = [[], line] ∧ fence = none ∧ IsHeadingLine line ∧
        afterText = true) := by
  cases fence with
  | some opener => exact Or.inl ⟨rfl, by simp⟩
  | none =>
      cases marked : marker? line with
      | some marker =>
          have notBlank : line ≠ [] := by
            rintro rfl
            simp [marker?] at marked
          have notHeading : ¬ IsHeadingLine line := by
            intro heading
            rw [heading_is_no_marker line heading] at marked
            exact absurd marked (by simp)
          exact Or.inl ⟨by simp [tidyLine, marked],
            fun _ => prose_is_kept afterText line notBlank notHeading⟩
      | none =>
          cases line with
          | nil =>
              cases afterText with
              | true => exact Or.inl ⟨rfl, fun _ => blank_is_kept⟩
              | false => exact Or.inr (Or.inl ⟨rfl, rfl, rfl, rfl⟩)
          | cons first rest =>
              by_cases heading : IsHeadingLine (first :: rest)
              · have isHeading := (is_heading_iff _).mpr heading
                cases afterText with
                | true =>
                    exact Or.inr (Or.inr ⟨by simp [tidyLine, marked, isHeading], rfl, heading, rfl⟩)
                | false =>
                    exact Or.inl ⟨tidy_heading_after_blank none _ heading,
                      fun _ => text_is_kept _ (by simp)⟩
              · have noHeading := mt (is_heading_iff _).mp heading
                exact Or.inl ⟨by simp [tidyLine, marked, noHeading],
                  fun _ => prose_is_kept afterText _ (by simp) heading⟩

theorem tidy_line_of_kept (fence : Option Fence) (afterText : Bool) (line : List Char)
    (kept : fence = none → KeptLine afterText line) : tidyLine fence afterText line = [line] := by
  rcases tidy_line_cases fence afterText line with
    ⟨same, -⟩ | ⟨-, noFence, isBlank, notAfter⟩ | ⟨-, noFence, heading, after⟩
  · exact same
  · exact absurd ((kept noFence).blank isBlank) (by simp [notAfter])
  · exact absurd ((kept noFence).heading heading) (by simp [after])

theorem tidy_lines_of_settled (fence : Option Fence) (afterText : Bool)
    (lines : List (List Char)) (settled : Settled fence afterText lines) :
    tidyLines fence afterText lines = lines := by
  induction lines generalizing fence afterText with
  | nil => rfl
  | cons line rest induction =>
      obtain ⟨kept, settledRest⟩ := settled
      rw [tidy_lines_cons, tidy_line_of_kept fence afterText line kept, induction _ _ settledRest]
      rfl

/-- What becomes of a line is settled, and leaves the fence and the last line as the line does. -/
theorem tidy_line_settled (fence : Option Fence) (afterText : Bool) (line : List Char) :
    Settled fence afterText (tidyLine fence afterText line) ∧
      (tidyLine fence afterText line).foldl fenceAfter fence = fenceAfter fence line ∧
      endsInText afterText (tidyLine fence afterText line) = !line.isEmpty := by
  rcases tidy_line_cases fence afterText line with
    ⟨same, kept⟩ | ⟨gone, rfl, rfl, rfl⟩ | ⟨parted, rfl, heading, rfl⟩
  · rw [same]
    exact ⟨⟨kept, trivial⟩, rfl, rfl⟩
  · rw [gone]
    exact ⟨trivial, rfl, rfl⟩
  · have headingKept := text_is_kept line (heading_ne_nil line heading)
    rw [parted]
    exact ⟨⟨fun _ => blank_is_kept, fun _ => headingKept, trivial⟩, rfl, rfl⟩

theorem tidy_lines_settled (fence : Option Fence) (afterText : Bool) (lines : List (List Char)) :
    Settled fence afterText (tidyLines fence afterText lines) := by
  induction lines generalizing fence afterText with
  | nil => trivial
  | cons line rest induction =>
      -- The lines below go on from the same state over the tidied line as over the line itself.
      obtain ⟨settled, sameFence, sameEnd⟩ := tidy_line_settled fence afterText line
      rw [tidy_lines_cons, settled_append, sameFence, sameEnd]
      exact ⟨settled, induction _ _⟩

theorem drop_last_blanks_starts (lines : List (List Char)) : dropLastBlanks lines <+: lines := by
  induction lines with
  | nil => exact List.prefix_rfl
  | cons line rest induction =>
      rw [dropLastBlanks]
      cases kept : dropLastBlanks rest with
      | nil =>
          cases line with
          | nil => exact List.nil_prefix
          | cons first more => exact List.prefix_append [first :: more] rest
      | cons next more =>
          rw [kept] at induction
          exact List.cons_prefix_cons.mpr ⟨rfl, induction⟩

/-- After the blank lines at the end are dropped, lines end in text if any are left. -/
theorem drop_last_blanks_end (lines : List (List Char)) :
    dropLastBlanks lines = [] ∨
      ∃ front last, dropLastBlanks lines = front ++ [last] ∧ last ≠ [] := by
  induction lines with
  | nil => exact Or.inl rfl
  | cons line rest induction =>
      rw [dropLastBlanks]
      rcases induction with nothing | ⟨front, last, ends, text⟩
      · rw [nothing]
        cases line with
        | nil => exact Or.inl rfl
        | cons first more => exact Or.inr ⟨[], first :: more, rfl, by simp⟩
      · rw [ends]
        refine Or.inr ⟨line :: front, last, ?_, text⟩
        cases front <;> rfl

theorem settled_of_prefix (fence : Option Fence) (afterText : Bool)
    (front lines : List (List Char)) (isPrefix : front <+: lines)
    (settled : Settled fence afterText lines) : Settled fence afterText front := by
  obtain ⟨back, rfl⟩ := isPrefix
  exact ((settled_append fence afterText front back).mp settled).1

/-- A line in its place is kept, whatever stands above and below it. -/
theorem settled_iff_kept (fence : Option Fence) (afterText : Bool) (lines : List (List Char)) :
    Settled fence afterText lines ↔
      ∀ above line below, lines = above ++ line :: below →
        above.foldl fenceAfter fence = none → KeptLine (endsInText afterText above) line := by
  constructor
  · rintro settled above line below rfl unfenced
    exact ((settled_append fence afterText above _).mp settled).2.1 unfenced
  · intro kept
    induction lines generalizing fence afterText with
    | nil => trivial
    | cons first rest induction =>
        refine ⟨kept [] first rest rfl, induction _ _ ?_⟩
        rintro above line below rfl unfenced
        exact kept (first :: above) line below rfl unfenced

/-- Settled lines of a whole text: it starts with no blank line, and outside of fences no blank
line follows a blank line and every heading but a first line follows one. -/
theorem settled_iff (lines : List (List Char)) :
    Settled none false lines ↔
      lines.head? ≠ some [] ∧
      (∀ above below, lines = above ++ [] :: [] :: below → openFence above ≠ none) ∧
      ∀ above before line below, lines = above ++ before :: line :: below →
        IsHeadingLine line → openFence (above ++ [before]) = none → before = [] := by
  rw [settled_iff_kept]
  -- Without a line above, a line is the first; else the line above tells whether it follows text.
  constructor
  · intro kept
    refine ⟨?_, ?_, ?_⟩
    · intro starts
      obtain ⟨rest, rfl⟩ := List.head?_eq_some_iff.mp starts
      exact absurd ((kept [] [] rest rfl rfl).blank rfl) (by decide)
    · rintro above below rfl unfenced
      have fence : openFence (above ++ [[]]) = none := by
        rw [open_fence_concat, fence_after_blank, unfenced]
      have after := (kept (above ++ [[]]) [] below (by simp) fence).blank rfl
      rw [ends_in_text_concat] at after
      exact absurd after (by decide)
    · rintro above before line below rfl heading unfenced
      have after := (kept (above ++ [before]) line below (by simp) unfenced).heading heading
      rw [ends_in_text_concat] at after
      simpa using after
  · rintro ⟨start, blanks, headings⟩ above line below rfl unfenced
    rcases List.eq_nil_or_concat above with rfl | ⟨front, before, rfl⟩
    · refine ⟨?_, fun _ => rfl⟩
      rintro rfl
      exact absurd rfl start
    · rw [List.concat_eq_append] at unfenced ⊢
      rw [ends_in_text_concat]
      constructor
      · rintro rfl
        cases before with
        | cons first rest => rfl
        | nil =>
            have fence : openFence front = none := by
              rw [← unfenced, ← openFence, open_fence_concat, fence_after_blank]
            exact absurd fence (blanks front below (by simp))
      · intro heading
        rw [headings front before line below (by simp) heading unfenced]
        rfl

/-- Settled lines that end in text are tidied to themselves, and an empty line after them goes. -/
theorem tidied_before_end (front : List (List Char)) (last : List Char) (isText : last ≠ [])
    (settled : Settled none false (front ++ [last])) :
    dropLastBlanks (tidyLines none false (front ++ [last] ++ [[]])) = front ++ [last] := by
  have ends : endsInText false (front ++ [last]) = true := by
    rw [ends_in_text_concat]
    simpa using isText
  have settledEnd : Settled none false (front ++ [last] ++ [[]]) := by
    rw [settled_append, ends]
    exact ⟨settled, fun _ => blank_is_kept, trivial⟩
  rw [tidy_lines_of_settled none false _ settledEnd, List.append_assoc]
  exact drop_last_blanks_append front [[]] last (by simpa using isText)

theorem tidied_lines_settled (text : List Char) : Settled none false (tidiedLines text) :=
  settled_of_prefix none false _ _ (drop_last_blanks_starts _) (tidy_lines_settled none false _)

section Text

/-- The lines of a text that a line feed ends. -/
def endedLines (text : String) : List (List Char) := (linesOf text).dropLast

/-- Lines of a text that tidying keeps: their ends are unified and nothing trails them, the last
one is text, and outside of fences blank lines stand alone, and before every heading but a first
line. -/
structure NormalLines (text : String) : Prop where
  unified : '\r' ∉ text.toList
  ending : ∃ front last, linesOf text = front ++ [last, []] ∧ last ≠ []
  trimmed : ∀ line ∈ linesOf text, ∀ last, line.getLast? = some last → isBlank last = false
  start : (endedLines text).head? ≠ some []
  blanks : ∀ above below, endedLines text = above ++ [] :: [] :: below → openFence above ≠ none
  headings : ∀ above before line below, endedLines text = above ++ before :: line :: below →
    IsHeadingLine line → openFence (above ++ [before]) = none → before = []

/-- A single line feed, or lines that tidying keeps. -/
def NormalForm (text : String) : Prop := text = "\n" ∨ NormalLines text

theorem trimmed_line_end (text line : List Char) (member : line ∈ trimmedLines text)
    (last : Char) (ends : line.getLast? = some last) : isBlank last = false := by
  obtain ⟨whole, -, rfl⟩ := List.mem_map.mp member
  exact trim_end_last whole last ends

theorem tidy_text (text : String) :
    (tidy text).toList = ['\n'].intercalate (tidiedLines text.toList) ++ ['\n'] := by
  rw [tidy, String.toList_ofList, tidyChars, join_eq_intercalate]
  rfl

theorem lines_of_tidy (text : String) (notEmpty : tidiedLines text.toList ≠ []) :
    linesOf (tidy text) = tidiedLines text.toList ++ [[]] := by
  rw [linesOf, tidy_text]
  exact split_ended_lines _ notEmpty (tidied_line_is_one text.toList)

theorem tidy_blank_text (text : String) (noText : tidiedLines text.toList = []) :
    tidy text = "\n" := by
  rw [← String.toList_inj, tidy_text, noText]
  rfl

theorem return_not_mem_tidy (text : String) : '\r' ∉ (tidy text).toList := by
  rw [tidy_text]
  intro isReturn
  rcases List.mem_append.mp isReturn with inLines | isEnd
  · rcases mem_of_intercalate _ _ _ inLines with isSeparator | ⟨line, isLine, inLine⟩
    · exact absurd isSeparator (by decide)
    · have notBlank : line ≠ [] := List.ne_nil_of_mem inLine
      have trimmed := mem_of_tidied_lines text.toList line isLine notBlank
      exact return_not_mem_unified _ ((trimmed_line_occurs text.toList line trimmed).subset inLine)
  · exact absurd isEnd (by decide)

theorem normal_of_tidy (text : String) : NormalForm (tidy text) := by
  rcases drop_last_blanks_end (tidyLines none false (trimmedLines text.toList)) with
    nothing | ⟨front, last, ends, isText⟩
  · exact Or.inl (tidy_blank_text text nothing)
  · have lines := lines_of_tidy text (by rw [tidiedLines, ends]; simp)
    have ended : endedLines (tidy text) = tidiedLines text.toList := by
      rw [endedLines, lines, List.dropLast_concat]
    obtain ⟨start, blanks, headings⟩ := (settled_iff _).mp (tidied_lines_settled text.toList)
    rw [← ended] at start blanks headings
    refine Or.inr ⟨return_not_mem_tidy text, ⟨front, last, ?_, isText⟩, ?_, start, blanks, headings⟩
    · rw [lines, tidiedLines, ends, List.append_assoc]
      rfl
    · intro line member character isLast
      have isLine : line ∈ tidiedLines text.toList := by
        rw [lines] at member
        rcases List.mem_append.mp member with isLine | isEnd
        · exact isLine
        · rw [List.mem_singleton.mp isEnd] at isLast
          simp at isLast
      have notBlank : line ≠ [] := by
        rintro rfl
        simp at isLast
      exact trimmed_line_end text.toList line
        (mem_of_tidied_lines text.toList line isLine notBlank) character isLast

theorem lines_of_trimmed (text : String) (normal : NormalLines text) :
    trimmedLines text.toList = linesOf text := by
  rw [trimmedLines, unify_newlines_of_no_return _ normal.unified, split_eq_split_on]
  have unchanged : ∀ line ∈ linesOf text, trimEnd line = id line :=
    fun line member => trim_end_of_last line (normal.trimmed line member)
  exact (List.map_congr_left unchanged).trans (List.map_id _)

theorem tidy_of_normal_lines (text : String) (normal : NormalLines text) : tidy text = text := by
  obtain ⟨front, last, lines, isText⟩ := normal.ending
  rw [List.append_cons] at lines
  have ended : endedLines text = front ++ [last] := by
    rw [endedLines, lines, List.dropLast_concat]
  have settled : Settled none false (front ++ [last]) := by
    rw [← ended]
    exact (settled_iff _).mpr ⟨normal.start, normal.blanks, normal.headings⟩
  have tidied : tidiedLines text.toList = front ++ [last] := by
    rw [tidiedLines, lines_of_trimmed text normal, lines]
    exact tidied_before_end front last isText settled
  rw [← String.toList_inj, tidy_text, tidied, ← intercalate_blank_end _ (by simp), ← lines]
  exact List.intercalate_splitOn '\n'

/-- Tidying gives the normal form, leaves exactly the texts in normal form as they are, and so
changes nothing more a second time. -/
theorem tidy_normalizes (text : String) :
    NormalForm (tidy text) ∧ (tidy text = text ↔ NormalForm text) ∧
      tidy (tidy text) = tidy text := by
  have unchanged : ∀ text, NormalForm text → tidy text = text := by
    rintro text (rfl | normal)
    · decide
    · exact tidy_of_normal_lines text normal
  refine ⟨normal_of_tidy text, ⟨?_, unchanged text⟩, unchanged _ (normal_of_tidy text)⟩
  intro same
  rw [← same]
  exact normal_of_tidy text

end Text

end ReadmePress.Tidy
