import ReadmePress.Text.Lines
import ReadmePress.Text.Substring

/-!
What unifying line ends does to a text: every carriage return with a line feed after it becomes
one line feed, and so does every other carriage return.
-/

namespace ReadmePress.Text

theorem pair_is_at_start (rest : List Char) :
    ['\r', '\n'].isPrefixOf ('\r' :: '\n' :: rest) = true := by
  simp [List.isPrefixOf]

theorem pair_is_not_at_start (character : Char) (rest : List Char)
    (noPair : ∀ more, character = '\r' → rest = '\n' :: more → False) :
    ['\r', '\n'].isPrefixOf (character :: rest) = false := by
  cases rest with
  | nil => simp [List.isPrefixOf]
  | cons next more =>
      by_cases isReturn : character = '\r'
      · by_cases isFeed : next = '\n'
        · exact (noPair more isReturn (by rw [isFeed])).elim
        · simp [List.isPrefixOf, Ne.symm isFeed]
      · simp [List.isPrefixOf, Ne.symm isReturn]

theorem unify_newlines_eq (text : List Char) :
    unifyNewlines text =
      (replace ['\r', '\n'] ['\n'] text).map fun character =>
        if character = '\r' then '\n' else character := by
  unfold replace
  fun_induction unifyNewlines text with
  | case1 => rfl
  | case2 rest induction =>
      rw [replaceFrom, if_pos (pair_is_at_start rest)]
      simpa [replaceFrom] using induction
  | case3 character rest noPair induction =>
      have notHere := pair_is_not_at_start character rest noPair
      rw [replaceFrom, notHere, if_neg Bool.false_ne_true, List.map_cons, induction]

theorem unify_newlines_return (rest : List Char) :
    ∃ more, unifyNewlines ('\r' :: rest) = '\n' :: more := by
  cases rest with
  | nil => exact ⟨[], rfl⟩
  | cons next others =>
      by_cases isFeed : next = '\n'
      · subst isFeed
        exact ⟨_, rfl⟩
      · have noPair : ∀ more, '\r' = '\r' → next :: others = '\n' :: more → False :=
          fun more _ same => isFeed (List.cons.inj same).1
        rw [unifyNewlines.eq_3 _ _ noPair, if_pos rfl]
        exact ⟨_, rfl⟩

theorem unify_newlines_cons (character : Char) (rest : List Char) (noReturn : character ≠ '\r') :
    unifyNewlines (character :: rest) = character :: unifyNewlines rest := by
  rw [unifyNewlines, if_neg noReturn]
  exact fun _ isReturn _ => noReturn isReturn

theorem return_not_mem_unified (text : List Char) : '\r' ∉ unifyNewlines text := by
  rw [unify_newlines_eq]
  intro member
  obtain ⟨character, -, written⟩ := List.mem_map.mp member
  split at written
  next => exact absurd written (by decide)
  next noReturn => exact noReturn written

/-- A text without carriage returns has its line ends unified already. -/
theorem unify_newlines_of_no_return (text : List Char) (noReturn : '\r' ∉ text) :
    unifyNewlines text = text := by
  induction text with
  | nil => rfl
  | cons character rest induction =>
      obtain ⟨notHere, notLater⟩ := not_or.mp (mt List.mem_cons.mpr noReturn)
      rw [unify_newlines_cons character rest (Ne.symm notHere), induction notLater]

end ReadmePress.Text
