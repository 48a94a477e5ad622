import ReadmePress.Proofs.Document.Headings
import ReadmePress.Proofs.Text.Occurrence

/-!
The description in its slots. A draft has a slot line where the description goes, tidying keeps
it, and the finished document is the rest of the tidied draft with the description between its
pieces, whatever the description is. No other line holds the slot unless a fact does: a slot does
not reach over a line end, a blank or a sign that the draft puts between facts.
-/

namespace ReadmePress

open ReadmePress.Text

/-- The line that stands for the description. -/
def slotLine : List Char := descriptionSlot.toList

/-- A text that the slot does not occur in. -/
def LacksSlot (text : List Char) : Prop := ¬ slotLine <:+: text

instance (text : List Char) : Decidable (LacksSlot text) :=
  decidable_of_iff (occursIn slotLine text = false) <| by
    rw [LacksSlot, ← occurs_in_iff, Bool.not_eq_true]

/-- A line that is the slot, or does not hold it. -/
def SlotOrLacking (line : List Char) : Prop := line = slotLine ∨ LacksSlot line

section Filling

theorem fill_slot (description : String) : filledLine description slotLine = description.toList :=
  replace_self _ _ (by decide)

theorem fill_lacking (description : String) (line : List Char) (lacks : LacksSlot line) :
    filledLine description line = line :=
  replace_absent _ _ line lacks

theorem intercalate_append_head (separator front first : List Char) (more : List (List Char)) :
    separator.intercalate ((front ++ first) :: more) =
      front ++ separator.intercalate (first :: more) := by
  cases more with
  | nil => simp
  | cons next others => simp only [List.intercalate_cons_cons, List.append_assoc]

/-- Lines with their slots filled are pieces with the description between them, one more than
there are slots. The pieces are found without the description. -/
theorem filled_pieces (lines : List (List Char)) (known : ∀ line ∈ lines, SlotOrLacking line) :
    ∃ pieces : List (List Char), pieces.length = lines.count slotLine + 1 ∧
      ∀ description : String,
        lines.flatMap (fun line => filledLine description line ++ ['\n']) =
          description.toList.intercalate pieces := by
  induction lines with
  | nil => exact ⟨[[]], rfl, fun _ => rfl⟩
  | cons line rest induction =>
      obtain ⟨here, later⟩ := List.forall_mem_cons.mp known
      obtain ⟨pieces, number, filled⟩ := induction later
      cases pieces with
      | nil => simp at number
      | cons first more =>
          rw [List.length_cons, Nat.add_right_cancel_iff] at number
          -- A slot begins a new piece; any other line joins the first piece of the lines below.
          rcases here with rfl | lacks
          · refine ⟨[] :: ('\n' :: first) :: more, ?_, ?_⟩
            · rw [List.length_cons, List.length_cons, number, List.count_cons_self]
            · intro description
              rw [List.flatMap_cons, fill_slot, filled description, List.intercalate_cons_cons,
                List.nil_append, List.append_assoc]
              exact congrArg (description.toList ++ ·)
                (intercalate_append_head _ ['\n'] first more).symm
          · refine ⟨(line ++ '\n' :: first) :: more, ?_, ?_⟩
            · have notSlot : line ≠ slotLine := by
                rintro rfl
                exact lacks List.infix_rfl
              rw [List.length_cons, number, List.count_cons_of_ne notSlot]
            · intro description
              rw [List.flatMap_cons, fill_lacking description line lacks, filled description]
              have split : line ++ '\n' :: first = (line ++ ['\n']) ++ first := by simp
              rw [split, intercalate_append_head]

theorem lacks_slot_of_trimmed (text line : List Char) (lacks : LacksSlot text)
    (member : line ∈ Tidy.trimmedLines text) : LacksSlot line := by
  intro occurs
  have inUnified := occurs.trans (Tidy.trimmed_line_occurs text line member)
  exact lacks (infix_of_unified slotLine text (by decide) (by decide) inUnified)

/-- Tidying keeps every slot. -/
theorem count_slots_of_tidied (text : List Char) :
    (Tidy.tidiedLines text).count slotLine = (Tidy.trimmedLines text).count slotLine := by
  have isText (lines : List (List Char)) :
      (Tidy.textLines lines).count slotLine = lines.count slotLine := List.count_filter (by decide)
  rw [← isText, Tidy.text_of_tidied_lines, isText]

/-- A finished document is pieces with the description between them, one more than its draft has
slots. -/
theorem finished_pieces (draft : String)
    (known : ∀ line ∈ Tidy.trimmedLines draft.toList, SlotOrLacking line)
    (slot : slotLine ∈ Tidy.trimmedLines draft.toList) :
    ∃ pieces : List (List Char),
      pieces.length = (Tidy.trimmedLines draft.toList).count slotLine + 1 ∧
        ∀ description, (finishDocument draft description).toList =
          description.toList.intercalate pieces := by
  have knownTidied : ∀ line ∈ Tidy.tidiedLines draft.toList, SlotOrLacking line := by
    intro line member
    by_cases isBlank : line = []
    · exact Or.inr (by rw [isBlank]; decide)
    · exact known line (Tidy.mem_of_tidied_lines _ line member isBlank)
  have notEmpty : Tidy.tidiedLines draft.toList ≠ [] := by
    intro nothing
    have number := count_slots_of_tidied draft.toList
    rw [nothing, List.count_nil] at number
    exact Nat.ne_of_lt (List.count_pos_iff.mpr slot) number
  obtain ⟨pieces, number, filled⟩ := filled_pieces _ knownTidied
  refine ⟨pieces, by rw [number, count_slots_of_tidied], ?_⟩
  intro description
  rw [finished_text, intercalate_ended _ (by simpa using notEmpty), List.flatMap_map]
  exact filled description

end Filling

section Lacking

/-- Characters that the slot does not hold. -/
def divides (character : Char) : Bool := !slotLine.contains character

theorem lacks_slot_beside (front back : List Char) (divider : Char)
    (apart : divides divider = true) (frontLacks : LacksSlot front) (backLacks : LacksSlot back) :
    LacksSlot (front ++ divider :: back) := by
  intro occurs
  have absent : divider ∉ slotLine := by simpa [divides] using apart
  rcases infix_beside_divider slotLine front back divider absent occurs with inFront | inBack
  · exact frontLacks inFront
  · exact backLacks inBack

theorem lacks_slot_of_part (text part : List Char) (lacks : LacksSlot text)
    (isPart : part <:+: text) : LacksSlot part :=
  fun occurs => lacks (occurs.trans isPart)

/-- A text that ends with a dividing character can be followed by any text. -/
theorem lacks_slot_after (first second : String)
    (apart : first.toList.getLast?.all divides = true) (firstLacks : LacksSlot first.toList)
    (secondLacks : LacksSlot second.toList) : LacksSlot (first ++ second).toList := by
  rw [String.toList_append]
  rcases List.eq_nil_or_concat first.toList with isEmpty | ⟨front, divider, ends⟩
  · rw [isEmpty]
    exact secondLacks
  · rw [ends, List.concat_eq_append] at firstLacks ⊢
    rw [ends, List.concat_eq_append, List.getLast?_concat] at apart
    rw [List.append_assoc]
    exact lacks_slot_beside front second.toList divider apart
      (lacks_slot_of_part _ front firstLacks (List.prefix_append _ _).isInfix) secondLacks

/-- A text that starts with a dividing character can follow any text. -/
theorem lacks_slot_before (first second : String)
    (apart : second.toList.head?.all divides = true) (firstLacks : LacksSlot first.toList)
    (secondLacks : LacksSlot second.toList) : LacksSlot (first ++ second).toList := by
  rw [String.toList_append]
  cases starts : second.toList with
  | nil =>
      rw [List.append_nil]
      exact firstLacks
  | cons divider back =>
      rw [starts] at apart secondLacks
      exact lacks_slot_beside first.toList back divider apart firstLacks
        (lacks_slot_of_part _ back secondLacks (List.suffix_cons divider back).isInfix)

/-- A glue with dividing characters at its ends holds two texts apart. -/
theorem lacks_slot_glued (first glue second : String)
    (starts : glue.toList.head?.any divides = true) (ends : glue.toList.getLast?.any divides = true)
    (glueLacks : LacksSlot glue.toList) (firstLacks : LacksSlot first.toList)
    (secondLacks : LacksSlot second.toList) : LacksSlot (first ++ glue ++ second).toList := by
  cases last : glue.toList.getLast? with
  | none => simp [last] at ends
  | some divider =>
      have sameLast : (first ++ glue).toList.getLast? = some divider := by
        rw [String.toList_append, List.getLast?_append, last, Option.some_or]
      apply lacks_slot_after _ _ _ _ secondLacks
      · rw [sameLast]
        simpa [last] using ends
      · apply lacks_slot_before first glue _ firstLacks glueLacks
        cases begins : glue.toList.head? with
        | none => rfl
        | some character => simpa [begins] using starts

theorem lacks_slot_after_lines (first second : String) (whole : WholeLines first)
    (firstLacks : LacksSlot first.toList) (secondLacks : LacksSlot second.toList) :
    LacksSlot (first ++ second).toList := by
  apply lacks_slot_after first second _ firstLacks secondLacks
  cases ends : first.toList.getLast? with
  | none => rfl
  | some last =>
      rw [whole last ends]
      decide

theorem lacks_slot_line (text : String) (lacks : LacksSlot text.toList) :
    LacksSlot (text ++ "\n").toList :=
  lacks_slot_before text "\n" (by decide) lacks (by decide)

theorem lacks_slot_join (texts : List String) (whole : ∀ text ∈ texts, WholeLines text)
    (lacks : ∀ text ∈ texts, LacksSlot text.toList) : LacksSlot (String.join texts).toList := by
  induction texts with
  | nil => decide
  | cons text more induction =>
      obtain ⟨wholeHere, wholeLater⟩ := List.forall_mem_cons.mp whole
      obtain ⟨here, later⟩ := List.forall_mem_cons.mp lacks
      rw [String.join_cons]
      exact lacks_slot_after_lines text _ wholeHere here (induction wholeLater later)

theorem lacks_slot_lines (texts : List String) (lacks : ∀ text ∈ texts, LacksSlot text.toList) :
    LacksSlot (String.join (texts.map (· ++ "\n"))).toList := by
  apply lacks_slot_join _ (whole_each_line texts)
  intro line member
  obtain ⟨text, isText, rfl⟩ := List.mem_map.mp member
  exact lacks_slot_line text (lacks text isText)

theorem lacks_slot_list_items (texts : List String)
    (lacks : ∀ text ∈ texts, LacksSlot text.toList) : LacksSlot (listItems texts).toList := by
  rw [list_items_lines]
  apply lacks_slot_lines
  intro item member
  obtain ⟨text, isText, rfl⟩ := List.mem_map.mp member
  exact lacks_slot_after "- " text (by decide) (by decide) (lacks text isText)

theorem lacks_slot_list_or (phrase : String) (texts : List String)
    (phraseLacks : LacksSlot phrase.toList) (lacks : ∀ text ∈ texts, LacksSlot text.toList) :
    LacksSlot (listOr phrase texts).toList := by
  apply lacks_slot_list_items
  split
  · simpa using phraseLacks
  · exact lacks

end Lacking

end ReadmePress
