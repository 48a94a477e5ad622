import Mathlib.Data.List.Basic
import ReadmePress.Proofs.Text.Splitting

/-!
Lines of texts that are joined by line feeds. A line feed always ends a line, so the lines on both
sides of it are told apart from each other. A text that is joined from fewer pieces therefore has
no lines that a text joined from more pieces lacks, under every line boundary and between line
feeds alike.
-/

namespace ReadmePress.Text

theorem lines_after_step (pending rest : List Char) (character : Char)
    (noPair : character = '\r' → ∀ more, rest ≠ '\n' :: more) :
    linesAfter pending (character :: rest) =
      if isLineBreak character then pending.reverse :: linesAfter [] rest
      else linesAfter (character :: pending) rest := by
  rw [linesAfter]
  intro more isReturn isPair
  exact noPair isReturn more isPair

theorem lines_after_line_feed (pending rest : List Char) :
    linesAfter pending ('\n' :: rest) = pending.reverse :: linesAfter [] rest := by
  rw [lines_after_step pending rest '\n' (fun impossible => absurd impossible (by decide)),
    if_pos (by decide)]

theorem lines_after_pair (pending rest : List Char) :
    linesAfter pending ('\r' :: '\n' :: rest) = pending.reverse :: linesAfter [] rest := by
  rw [linesAfter]

/-- A character before a text that a line feed ends makes a pair with that line feed only where
nothing stands between them. -/
theorem lines_before_line_feed (pending text : List Char) (character : Char)
    (noPair : ∀ more, character = '\r' → text = '\n' :: more → False) :
    (text = [] ∧ character = '\r') ∨
      ∀ rest, linesAfter pending (character :: (text ++ '\n' :: rest)) =
        if isLineBreak character then pending.reverse :: linesAfter [] (text ++ '\n' :: rest)
        else linesAfter (character :: pending) (text ++ '\n' :: rest) := by
  cases text with
  | nil =>
      by_cases isReturn : character = '\r'
      · exact Or.inl ⟨rfl, isReturn⟩
      · exact Or.inr fun rest => lines_after_step _ _ _ fun same => absurd same isReturn
  | cons next others =>
      refine Or.inr fun rest => lines_after_step _ _ _ fun isReturn more isPair => ?_
      obtain ⟨rfl, -⟩ := List.cons.inj isPair
      exact noPair others isReturn rfl

/-- A line feed cuts a text into the lines up to it and the lines after it. -/
theorem lines_after_append (pending text rest : List Char) :
    linesAfter pending (text ++ '\n' :: rest) =
      linesAfter pending (text ++ ['\n']) ++ linesAfter [] rest := by
  have ended (pending : List Char) : linesAfter pending ['\n'] = [pending.reverse] :=
    lines_after_line_feed pending []
  fun_induction linesAfter pending text with
  | case1 pending => rw [List.nil_append, List.nil_append, lines_after_line_feed, ended]; rfl
  | case2 pending => rw [List.nil_append, List.nil_append, lines_after_line_feed, ended]; rfl
  | case3 pending more induction => simp only [List.cons_append, lines_after_pair, induction]
  | case4 pending character more noPair isBreak induction =>
      rcases lines_before_line_feed pending more character noPair with ⟨rfl, rfl⟩ | step
      · exact lines_after_pair pending rest
      · simp only [List.cons_append, step, if_pos isBreak, induction]
  | case5 pending character more noPair noBreak induction =>
      rcases lines_before_line_feed pending more character noPair with ⟨rfl, rfl⟩ | step
      · exact lines_after_pair pending rest
      · simp only [List.cons_append, step, if_neg noBreak, induction]

theorem lines_append (text rest : List Char) :
    lines (text ++ '\n' :: rest) = lines (text ++ ['\n']) ++ lines rest :=
  lines_after_append [] text rest

theorem lines_after_ended (pending text : List Char) :
    (linesAfter pending text).Sublist (linesAfter pending (text ++ ['\n'])) := by
  fun_induction linesAfter pending text with
  | case1 pending => exact List.nil_sublist _
  | case2 pending =>
      rw [List.nil_append, lines_after_line_feed]
      exact List.Sublist.refl _
  | case3 pending more induction =>
      simp only [List.cons_append, lines_after_pair]
      exact induction.cons_cons _
  | case4 pending character more noPair isBreak induction =>
      rcases lines_before_line_feed pending more character noPair with ⟨rfl, rfl⟩ | step
      · rw [List.cons_append, List.nil_append, lines_after_pair]
      · simp only [List.cons_append, step, if_pos isBreak]
        exact induction.cons_cons _
  | case5 pending character more noPair noBreak induction =>
      rcases lines_before_line_feed pending more character noPair with ⟨rfl, rfl⟩ | step
      · exact absurd (by decide) noBreak
      · simp only [List.cons_append, step, if_neg noBreak]
        exact induction

/-- A line feed at its end adds at most one line to a text. -/
theorem lines_ended (text : List Char) : (lines text).Sublist (lines (text ++ ['\n'])) :=
  lines_after_ended [] text

/-- The second text has all lines of the first one in their order, whether lines are told by
every line boundary or by line feeds alone. -/
structure LinesWithin (short long : List Char) : Prop where
  lines : (lines short).Sublist (Text.lines long)
  fields : (split '\n' short).Sublist (split '\n' long)

/-- What is cut at line feeds is cut from fewer pieces as it is from more. -/
theorem cut_pieces (cut ended : List Char → List (List Char))
    (apart : ∀ piece rest, cut (piece ++ '\n' :: rest) = ended piece ++ cut rest)
    (last : ∀ piece, (cut piece).Sublist (ended piece)) (short long : List (List Char))
    (fewer : short.Sublist long) (some : short ≠ []) :
    (cut (['\n'].intercalate short)).Sublist (cut (['\n'].intercalate long)) := by
  have front (piece : List Char) (pieces : List (List Char)) (more : pieces ≠ []) :
      cut (['\n'].intercalate (piece :: pieces)) =
        ended piece ++ cut (['\n'].intercalate pieces) := by
    obtain ⟨next, others, rfl⟩ := List.exists_cons_of_ne_nil more
    rw [List.intercalate_cons_cons, List.append_assoc]
    exact apart piece _
  induction fewer with
  | slnil => exact absurd rfl some
  | cons piece fewer induction =>
      rw [front piece _ (fun empty => some (List.sublist_nil.mp (empty ▸ fewer)))]
      exact (induction some).trans (List.sublist_append_right _ _)
  | @cons_cons short long piece fewer induction =>
      by_cases more : short = []
      · subst more
        rw [List.intercalate_singleton]
        by_cases moreThere : long = []
        · rw [moreThere, List.intercalate_singleton]
        · rw [front piece long moreThere]
          exact (last piece).trans (List.sublist_append_left _ _)
      · have moreThere : long ≠ [] := fun empty => more (List.sublist_nil.mp (empty ▸ fewer))
        rw [front piece short more, front piece long moreThere]
        exact (List.Sublist.refl _).append (induction more)

theorem lines_within_pieces (short long : List (List Char)) (fewer : short.Sublist long)
    (some : short ≠ []) :
    LinesWithin (['\n'].intercalate short) (['\n'].intercalate long) := by
  constructor
  · exact cut_pieces lines _ lines_append lines_ended short long fewer some
  · apply cut_pieces (split '\n') (split '\n') _ (fun piece => List.Sublist.refl _) short long
      fewer some
    intro piece rest
    simp only [split_eq_split_on, List.splitOn_append_cons_self]

end ReadmePress.Text
