import ReadmePress.Proofs.Text.Splitting

/-!
Where a text occurs in another. An occurrence does not reach over a character that the text does
not hold, and so not over the end of a line; and replacing changes nothing but occurrences.
-/

namespace ReadmePress.Text

theorem occurs_in_iff (pattern text : List Char) :
    occursIn pattern text = true ↔ pattern <:+: text := by
  induction text with
  | nil => simp [occursIn]
  | cons character rest induction =>
      rw [occursIn, Bool.or_eq_true, induction, List.isPrefixOf_iff_prefix, List.infix_cons_iff]

/-- An occurrence lies on one side of a character that the text does not hold. -/
theorem infix_beside_divider (pattern front back : List Char) (divider : Char)
    (absent : divider ∉ pattern) (occurs : pattern <:+: front ++ divider :: back) :
    pattern <:+: front ∨ pattern <:+: back := by
  induction front with
  | nil =>
      rcases List.infix_cons_iff.mp occurs with starts | later
      · have inFront := (prefix_before_divider pattern [] back divider absent).mp starts
        exact Or.inl inFront.isInfix
      · exact Or.inr later
  | cons first more induction =>
      rcases List.infix_cons_iff.mp occurs with starts | later
      · have inFront := (prefix_before_divider pattern (first :: more) back divider absent).mp starts
        exact Or.inl inFront.isInfix
      · exact (induction later).imp_left List.infix_cons

theorem prefix_of_unified (pattern text : List Char) (noFeed : '\n' ∉ pattern)
    (noReturn : '\r' ∉ pattern) (starts : pattern <+: unifyNewlines text) : pattern <+: text := by
  induction pattern generalizing text with
  | nil => exact List.nil_prefix
  | cons first rest induction =>
      rw [List.mem_cons, not_or] at noFeed noReturn
      cases text with
      | nil => simp [unifyNewlines] at starts
      | cons character more =>
          by_cases isReturn : character = '\r'
          · obtain ⟨unified, begins⟩ := unify_newlines_return more
            rw [isReturn, begins, List.cons_prefix_cons] at starts
            exact absurd starts.1.symm noFeed.1
          · rw [unify_newlines_cons character more isReturn, List.cons_prefix_cons] at starts
            exact List.cons_prefix_cons.mpr
              ⟨starts.1, induction more noFeed.2 noReturn.2 starts.2⟩

/-- A text of one line that occurs after line ends are unified occurred before. -/
theorem infix_of_unified (pattern text : List Char) (noFeed : '\n' ∉ pattern)
    (noReturn : '\r' ∉ pattern) (occurs : pattern <:+: unifyNewlines text) :
    pattern <:+: text := by
  fun_induction unifyNewlines text with
  | case1 => exact occurs
  | case2 rest induction =>
      rcases infix_beside_divider pattern [] _ '\n' noFeed occurs with isEmpty | later
      · exact isEmpty.trans List.nil_infix
      · exact List.infix_cons (List.infix_cons (induction later))
  | case3 character rest noPair induction =>
      rcases List.infix_cons_iff.mp occurs with starts | later
      · rw [← unifyNewlines.eq_3 character rest noPair] at starts
        exact (prefix_of_unified pattern _ noFeed noReturn starts).isInfix
      · exact List.infix_cons (induction later)

/-- A text that does not occur is not replaced. -/
theorem replace_absent (pattern replacement text : List Char) (absent : ¬ pattern <:+: text) :
    replace pattern replacement text = text := by
  induction text with
  | nil => rfl
  | cons character rest induction =>
      rw [List.infix_cons_iff, not_or, ← List.isPrefixOf_iff_prefix] at absent
      rw [replace, replaceFrom, if_neg absent.1]
      exact congrArg (character :: ·) (induction absent.2)

/-- A text that takes its own place changes nothing. -/
theorem replace_by_itself (pattern text : List Char) (notEmpty : pattern ≠ []) (passing : Nat) :
    replaceFrom pattern pattern passing text = text.drop passing := by
  induction text generalizing passing with
  | nil => simp [replaceFrom]
  | cons character rest induction =>
      cases passing with
      | succ passing => exact induction passing
      | zero =>
          rw [replaceFrom]
          split
          next starts =>
            obtain ⟨more, split⟩ := List.isPrefixOf_iff_prefix.mp starts
            cases pattern with
            | nil => exact absurd rfl notEmpty
            | cons first others =>
                obtain ⟨rfl, rfl⟩ := List.cons.inj split
                rw [induction]
                simp
          next => rw [induction, List.drop_zero, List.drop_zero]

theorem replace_from_passed (pattern replacement text : List Char) (passing : Nat)
    (passed : text.length ≤ passing) : replaceFrom pattern replacement passing text = [] := by
  induction text generalizing passing with
  | nil => simp [replaceFrom]
  | cons character rest induction =>
      cases passing with
      | zero => simp at passed
      | succ passing => exact induction passing (by simpa using passed)

theorem replace_self (pattern replacement : List Char) (notEmpty : pattern ≠ []) :
    replace pattern replacement pattern = replacement := by
  cases pattern with
  | nil => exact absurd rfl notEmpty
  | cons first rest =>
      rw [replace, replaceFrom, if_pos (List.isPrefixOf_iff_prefix.mpr List.prefix_rfl),
        replace_from_passed _ _ rest _ (by simp), List.append_nil]

end ReadmePress.Text
