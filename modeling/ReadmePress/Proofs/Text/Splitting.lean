import ReadmePress.Proofs.Text.Newlines

/-!
Texts line by line. Splitting and joining are the library's, unifying line ends and replacing a
text that has no line feed in it do not move text from one line to another.
-/

namespace ReadmePress.Text

theorem split_eq_split_on (separator : Char) (text : List Char) :
    split separator text = text.splitOn separator := by
  induction text with
  | nil => rfl
  | cons character rest induction =>
      rw [split, List.splitOn_cons_eq_if_modifyHead, induction]
      by_cases same : character = separator
      · simp [same]
      · have someField := List.splitOn_ne_nil separator rest
        simp only [same, if_false, beq_iff_eq]
        cases fields : rest.splitOn separator with
        | nil => exact absurd fields someField
        | cons field more => rfl

theorem join_eq_intercalate (separator : List Char) (fields : List (List Char)) :
    join separator fields = separator.intercalate fields := by
  induction fields with
  | nil => rfl
  | cons field more induction =>
      cases more with
      | nil => simp [join]
      | cons next others =>
          rw [join, induction, List.intercalate_cons_cons]
          simp

theorem separator_not_mem (separator : Char) (text field : List Char)
    (member : field ∈ text.splitOn separator) : separator ∉ field := by
  induction text generalizing field with
  | nil =>
      rw [List.splitOn_nil, List.mem_singleton] at member
      simp [member]
  | cons character rest induction =>
      rw [List.splitOn_cons_eq_if_modifyHead] at member
      split at member
      next =>
        rcases List.mem_cons.mp member with rfl | isLater
        · simp
        · exact induction field isLater
      next different =>
        cases fields : rest.splitOn separator with
        | nil => simp [fields] at member
        | cons first more =>
            rw [fields, List.modifyHead_cons] at member
            rcases List.mem_cons.mp member with rfl | isLater
            · have notInFirst := induction first (by simp [fields])
              have notSeparator : separator ≠ character := by
                rintro rfl
                simp at different
              simp [notInFirst, notSeparator]
            · exact induction field (by simp [fields, isLater])

theorem infix_of_intercalate (separator field : List Char) (fields : List (List Char))
    (member : field ∈ fields) : field <:+: separator.intercalate fields := by
  induction fields with
  | nil => simp at member
  | cons first more induction =>
      cases more with
      | nil => simp [List.mem_singleton.mp member]
      | cons next others =>
          rw [List.intercalate_cons_cons, List.append_assoc]
          rcases List.mem_cons.mp member with rfl | isLater
          · exact (List.prefix_append _ _).isInfix
          · exact List.infix_append_of_infix_right
              (List.infix_append_of_infix_right (induction isLater))

theorem field_occurs (separator : Char) (text field : List Char)
    (member : field ∈ text.splitOn separator) : field <:+: text := by
  have inJoined := infix_of_intercalate [separator] field _ member
  rwa [List.intercalate_splitOn] at inJoined

theorem mem_of_intercalate (separator : List Char) (fields : List (List Char)) (character : Char)
    (member : character ∈ separator.intercalate fields) :
    character ∈ separator ∨ ∃ field ∈ fields, character ∈ field := by
  induction fields with
  | nil => simp at member
  | cons first more induction =>
      cases more with
      | nil => exact Or.inr ⟨first, List.mem_cons_self, by simpa using member⟩
      | cons next others =>
          rw [List.intercalate_cons_cons, List.mem_append, List.mem_append] at member
          rcases member with (inFirst | isSeparator) | isLater
          · exact Or.inr ⟨first, List.mem_cons_self, inFirst⟩
          · exact Or.inl isSeparator
          · exact (induction isLater).imp_right fun ⟨field, isField, inField⟩ =>
              ⟨field, List.mem_cons_of_mem first isField, inField⟩

/-- Lines between line feeds, with one more at the end, are lines that are each ended by one. -/
theorem intercalate_ended (lines : List (List Char)) (notEmpty : lines ≠ []) :
    ['\n'].intercalate lines ++ ['\n'] = lines.flatMap (· ++ ['\n']) := by
  induction lines with
  | nil => exact absurd rfl notEmpty
  | cons line more induction =>
      cases more with
      | nil => simp
      | cons next others =>
          rw [List.intercalate_cons_cons, List.flatMap_cons, ← induction (by simp)]
          simp only [List.append_assoc]

/-- Line ends are unified part by part where no pair of them is cut apart. -/
theorem unify_newlines_append (first second : List Char) (uncut : first.getLast? ≠ some '\r') :
    unifyNewlines (first ++ second) = unifyNewlines first ++ unifyNewlines second := by
  fun_induction unifyNewlines first with
  | case1 => rfl
  | case2 rest induction =>
      have uncutBelow : rest.getLast? ≠ some '\r' := by
        cases rest with
        | nil => simp
        | cons next more => simpa [List.getLast?_cons_cons] using uncut
      rw [List.cons_append, List.cons_append, unifyNewlines, induction uncutBelow]
      rfl
  | case3 character rest noPair induction =>
      cases rest with
      | nil =>
          have notReturn : character ≠ '\r' := by simpa using uncut
          cases second <;> simp [unifyNewlines, notReturn]
      | cons next more =>
          rw [List.getLast?_cons_cons] at uncut
          have noPairAfter : ∀ others, character = '\r' → next :: more ++ second = '\n' :: others →
              False := by
            intro others isReturn isPair
            rw [List.cons_append] at isPair
            obtain ⟨rfl, -⟩ := List.cons.inj isPair
            exact noPair more isReturn rfl
          rw [List.cons_append, unifyNewlines, induction uncut]
          · rfl
          · exact noPairAfter

theorem unify_newlines_line_feed (text : List Char) :
    ∃ front, unifyNewlines (text ++ ['\n']) = front ++ ['\n'] := by
  fun_induction unifyNewlines text with
  | case1 => exact ⟨[], rfl⟩
  | case2 rest induction =>
      obtain ⟨front, ends⟩ := induction
      exact ⟨'\n' :: front, by rw [List.cons_append, List.cons_append, unifyNewlines, ends]; rfl⟩
  | case3 character rest noPair induction =>
      obtain ⟨front, ends⟩ := induction
      cases rest with
      | nil =>
          by_cases isReturn : character = '\r'
          · exact ⟨[], by rw [isReturn]; rfl⟩
          · exact ⟨[character], by simp [unifyNewlines, isReturn]⟩
      | cons next more =>
          refine ⟨(if character = '\r' then '\n' else character) :: front, ?_⟩
          rw [List.cons_append, unifyNewlines, ends]
          · rfl
          · intro others isReturn isPair
            rw [List.cons_append] at isPair
            obtain ⟨rfl, -⟩ := List.cons.inj isPair
            exact noPair more isReturn rfl

theorem prefix_before_divider (pattern front back : List Char) (divider : Char)
    (absent : divider ∉ pattern) : pattern <+: front ++ divider :: back ↔ pattern <+: front := by
  constructor
  · intro starts
    have frontStarts : front ++ [divider] <+: front ++ divider :: back := by simp
    rcases List.prefix_or_prefix_of_prefix starts frontStarts with inFront | across
    · rcases List.prefix_concat_iff.mp inFront with rfl | starts
      · simp at absent
      · exact starts
    · exact absurd (across.subset (by simp)) absent
  · exact fun starts => starts.trans (List.prefix_append _ _)

/-- A text without line feeds is replaced in a line whatever follows the line. -/
theorem replace_in_first_line (pattern replacement line rest : List Char) (passing : Nat)
    (notEmpty : pattern ≠ []) (oneLine : '\n' ∉ pattern) (inLine : passing ≤ line.length) :
    replaceFrom pattern replacement passing (line ++ '\n' :: rest) =
      replaceFrom pattern replacement passing line ++
        '\n' :: replaceFrom pattern replacement 0 rest := by
  induction line generalizing passing with
  | nil =>
      obtain rfl : passing = 0 := by simpa using inLine
      have notHere := prefix_before_divider pattern [] rest '\n' oneLine
      rw [List.prefix_nil, List.nil_append, ← List.isPrefixOf_iff_prefix] at notHere
      simp [replaceFrom, notHere, notEmpty]
  | cons character more induction =>
      cases passing with
      | succ passing =>
          rw [List.cons_append, replaceFrom, replaceFrom,
            induction passing (by simpa using inLine)]
      | zero =>
          have sameStart := prefix_before_divider pattern (character :: more) rest '\n' oneLine
          rw [List.cons_append, ← List.isPrefixOf_iff_prefix, ← List.isPrefixOf_iff_prefix]
            at sameStart
          rw [List.cons_append, replaceFrom, replaceFrom]
          by_cases starts : pattern.isPrefixOf (character :: more) = true
          · have within := (List.isPrefixOf_iff_prefix.mp starts).length_le
            have inRest : pattern.length - 1 ≤ more.length := by
              rw [List.length_cons] at within
              omega
            rw [if_pos (sameStart.mpr starts), if_pos starts, induction _ inRest]
            simp
          · have notAfter := fun startsAfter => starts (sameStart.mp startsAfter)
            rw [if_neg notAfter, if_neg starts, induction 0 (Nat.zero_le _)]
            simp

/-- A text without line feeds is replaced in each line for itself. -/
theorem replace_in_lines (pattern replacement : List Char) (lines : List (List Char))
    (notEmpty : pattern ≠ []) (oneLine : '\n' ∉ pattern) :
    replace pattern replacement (['\n'].intercalate lines) =
      ['\n'].intercalate (lines.map (replace pattern replacement)) := by
  induction lines with
  | nil => rfl
  | cons line more induction =>
      cases more with
      | nil => simp
      | cons next others =>
          rw [List.map_cons] at induction
          rw [List.intercalate_cons_cons, List.map_cons, List.map_cons,
            List.intercalate_cons_cons, ← induction, List.append_assoc, List.append_assoc]
          exact replace_in_first_line pattern replacement line _ 0 notEmpty oneLine (Nat.zero_le _)

theorem mem_of_replaced (pattern replacement text : List Char) (passing : Nat) (character : Char)
    (member : character ∈ replaceFrom pattern replacement passing text) :
    character ∈ text ∨ character ∈ replacement := by
  induction text generalizing passing with
  | nil => simp [replaceFrom] at member
  | cons first rest induction =>
      have later (passing : Nat) (inRest : character ∈ replaceFrom pattern replacement passing rest) :
          character ∈ first :: rest ∨ character ∈ replacement :=
        (induction passing inRest).imp_left (List.mem_cons_of_mem first)
      cases passing with
      | succ passing =>
          rw [replaceFrom] at member
          exact later passing member
      | zero =>
          rw [replaceFrom] at member
          split at member
          · rcases List.mem_append.mp member with inReplacement | inRest
            · exact Or.inr inReplacement
            · exact later _ inRest
          · rcases List.mem_cons.mp member with rfl | inRest
            · exact Or.inl List.mem_cons_self
            · exact later 0 inRest

end ReadmePress.Text
