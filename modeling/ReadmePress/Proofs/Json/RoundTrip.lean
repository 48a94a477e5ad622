import ReadmePress.Proofs.Json.WrittenText
import ReadmePress.Proofs.OrderedMap

/-!
Objects of texts are read as they were written. A value that is null, a text, or an object of
such values under distinct names is given back by the reader, whatever follows it, as long as
objects are not nested deeper than the reader goes.
-/

namespace ReadmePress

open ReadmePress.Text

namespace Json

/-- Values of texts alone, with at most so many objects around one another. -/
inductive IsTextual : (depth : Nat) → Json → Prop where
  | null (depth : Nat) : IsTextual depth .null
  | text (depth : Nat) (value : List Char) : IsTextual depth (.string (WideText.ofChars value))
  | object (depth : Nat) (members : List (WideText × Json))
      (distinct : (OrderedMap.keys members).Nodup)
      (names : ∀ entry ∈ members, ∃ name, entry.1 = WideText.ofChars name)
      (values : ∀ entry ∈ members, IsTextual depth entry.2) :
      IsTextual (depth + 1) (.object members)

section Spacing

theorem skip_space_of_character (character : Char) (rest : List Char)
    (notSpace : isSpace character = false) :
    skipSpace (character :: rest) = character :: rest := by
  rw [skipSpace, List.dropWhile_cons, notSpace]
  rfl

theorem skip_line_start (level : Nat) (rest : List Char) :
    skipSpace ((lineAt level).characters ++ rest) = skipSpace rest := by
  have blank : ∀ character ∈ '\n' :: List.replicate (2 * level) ' ', isSpace character = true := by
    intro character member
    rcases List.mem_cons.mp member with rfl | indented
    · rfl
    · rw [(List.mem_replicate.mp indented).2]
      rfl
  rw [lineAt, characters_of_chars, skipSpace, List.dropWhile_append_of_pos blank]
  rfl

theorem line_start_storable (level : Nat) :
    (lineAt level).all CodePoint.isStorable = true := by
  rw [lineAt, storable_of_chars, List.all_cons, List.all_replicate]
  simp

/-- A value of texts does not begin with a blank. -/
theorem written_starts (depth level : Nat) (value : Json) (textual : IsTextual depth value) :
    ∃ first others, (write level value).characters = first :: others ∧
      isSpace first = false ∧ first ≠ '\ufeff' := by
  cases textual with
  | null => exact ⟨'n', _, by rw [write]; rfl, by decide⟩
  | text value => exact ⟨'"', _, by rw [write, written_text_characters], by decide⟩
  | object depth members =>
      cases members with
      | nil => exact ⟨'{', _, by rw [write]; rfl, by decide⟩
      | cons entry rest => exact ⟨'{', _, by rw [write, characters_cons], by decide⟩

theorem skip_before_written (depth level : Nat) (value : Json) (rest : List Char)
    (textual : IsTextual depth value) :
    skipSpace ((write level value).characters ++ rest) =
      (write level value).characters ++ rest := by
  obtain ⟨first, others, starts, notSpace, -⟩ := written_starts depth level value textual
  rw [starts, List.cons_append, skip_space_of_character _ _ notSpace]

end Spacing

section Members

/-- What is written for a member: its name and its value. -/
def writtenMember (level : Nat) (entry : WideText × Json) : List Char :=
  (writeText entry.1).characters ++ ':' :: ' ' :: (write level entry.2).characters

theorem written_member_starts (level : Nat) (entry : WideText × Json) (rest : List Char) :
    ∃ more, writtenMember level entry ++ rest = '"' :: more := by
  rw [writtenMember, written_text_characters]
  exact ⟨_, rfl⟩

theorem skip_before_member (level : Nat) (entry : WideText × Json) (rest : List Char) :
    skipSpace (writtenMember level entry ++ rest) = writtenMember level entry ++ rest := by
  obtain ⟨more, starts⟩ := written_member_starts level entry rest
  rw [starts, skip_space_of_character _ _ (by decide)]

theorem written_members_cons (level : Nat) (entry : WideText × Json)
    (rest : List (WideText × Json)) :
    (writeMembers level (entry :: rest)).characters =
      ',' :: ((lineAt level).characters ++ writtenMember level entry
        ++ (writeMembers level rest).characters) := by
  simp [writeMembers, writtenMember, WideText.ofString]

theorem written_members_length (level : Nat) (members : List (WideText × Json)) :
    members.length ≤ (writeMembers level members).characters.length := by
  induction members with
  | nil => exact Nat.zero_le _
  | cons entry rest induction =>
      rw [written_members_cons]
      simp only [List.length_cons, List.length_append]
      omega

theorem written_object (level : Nat) (entry : WideText × Json)
    (rest : List (WideText × Json)) :
    (write level (.object (entry :: rest))).characters =
      '{' :: ((lineAt (level + 1)).characters ++ writtenMember (level + 1) entry
        ++ (writeMembers (level + 1) rest).characters ++ (lineAt level).characters ++ ['}']) := by
  simp [write, writtenMember, WideText.ofString]

/-- A member whose value is read as it was written. -/
structure ReadsMember (depth level : Nat) (entry : WideText × Json) : Prop where
  name : ∃ name, entry.1 = WideText.ofChars name
  value : IsTextual depth entry.2
  read : ∀ rest, readValue depth ((write level entry.2).characters ++ rest) = .ok (entry.2, rest)

theorem read_written_name (depth level : Nat) (entry : WideText × Json) (rest : List Char)
    (member : ReadsMember depth level entry) :
    readName (writtenMember level entry ++ rest) =
      .ok (entry.1, (write level entry.2).characters ++ rest) := by
  obtain ⟨name, isName⟩ := member.name
  have mark (below : List Char) : skipSpace (':' :: below) = ':' :: below :=
    skip_space_of_character ':' below (by decide)
  have blank : skipSpace (' ' :: ((write level entry.2).characters ++ rest)) =
      (write level entry.2).characters ++ rest :=
    skip_before_written depth level entry.2 rest member.value
  rw [writtenMember, isName, written_text_characters]
  simp only [List.append_assoc, List.cons_append, List.nil_append]
  rw [readName, read_written_text]
  simp only [bind, Except.bind, mark, blank]

theorem read_first_member (depth level fuel : Nat) (entry : WideText × Json)
    (rest : List Char) (member : ReadsMember depth level entry) :
    readMembers (readValue depth) (fuel + 1) (writtenMember level entry ++ rest) =
      match skipSpace rest with
      | '}' :: rest => .ok ([entry], rest)
      | ',' :: rest =>
          (readMembers (readValue depth) fuel (skipSpace rest)).bind fun (members, rest) =>
            .ok (entry :: members, rest)
      | rest => failAt .commaExpected rest := by
  rw [readMembers, read_written_name depth level entry rest member]
  dsimp only [bind, Except.bind]
  rewrite [member.read]
  rfl

/-- The members of an object are read one after the other up to the closing brace. -/
theorem read_written_members (depth level outer fuel : Nat) (first : WideText × Json)
    (members : List (WideText × Json)) (rest : List Char) (enough : members.length < fuel)
    (reads : ∀ entry ∈ first :: members, ReadsMember depth level entry) :
    readMembers (readValue depth) fuel
        (writtenMember level first ++ ((writeMembers level members).characters
          ++ ((lineAt outer).characters ++ '}' :: rest))) =
      .ok (first :: members, rest) := by
  induction members generalizing first fuel with
  | nil =>
      obtain ⟨less, rfl⟩ : ∃ less, fuel = less + 1 := ⟨fuel - 1, by omega⟩
      have closing : skipSpace ((lineAt outer).characters ++ '}' :: rest) = '}' :: rest :=
        (skip_line_start outer _).trans (skip_space_of_character _ _ (by decide))
      rw [read_first_member depth level less first _ (reads first List.mem_cons_self),
        writeMembers, characters_nil, List.nil_append, closing]
      rfl
  | cons second others induction =>
      obtain ⟨less, rfl⟩ : ∃ less, fuel = less + 1 := ⟨fuel - 1, by omega⟩
      obtain ⟨here, later⟩ := List.forall_mem_cons.mp reads
      have comma (below : List Char) : skipSpace (',' :: below) = ',' :: below :=
        skip_space_of_character ',' below (by decide)
      have remaining := induction less second (by simpa using enough) later
      rw [read_first_member depth level less first _ here, written_members_cons]
      simp only [List.cons_append, List.append_assoc, comma, skip_line_start,
        skip_before_member, remaining]
      rfl

/-- An object whose first member is due. -/
theorem read_object (depth : Nat) (text members : List Char)
    (due : skipSpace text = '"' :: members) :
    readValue (depth + 1) ('{' :: text) =
      (readMembers (readValue depth) ((skipSpace text).length + 1) (skipSpace text)).map
        fun (members, rest) => (.object (OrderedMap.ofEntries members), rest) := by
  rw [readValue, due]
  rfl

/-- A value of texts is read as it was written. -/
theorem read_written (depth level : Nat) (value : Json) (textual : IsTextual depth value)
    (rest : List Char) :
    readValue depth ((write level value).characters ++ rest) = .ok (value, rest) := by
  induction textual generalizing level rest with
  | null depth => cases depth <;> rfl
  | text depth value =>
      rw [write, written_text_characters]
      simp only [List.cons_append, List.append_assoc, List.nil_append]
      cases depth <;> simp only [readValue, read_written_text, Except.map]
  | object depth members distinct names values induction =>
      cases members with
      | nil => rfl
      | cons first others =>
          have reads : ∀ entry ∈ first :: others, ReadsMember depth (level + 1) entry :=
            fun entry member =>
              { name := names entry member
                value := values entry member
                read := induction entry member (level + 1) }
          have skipped (below : List Char) :
              skipSpace ((lineAt (level + 1)).characters ++
                (writtenMember (level + 1) first ++ below)) =
                  writtenMember (level + 1) first ++ below :=
            (skip_line_start _ _).trans (skip_before_member _ _ _)
          obtain ⟨more, starts⟩ := written_member_starts (level + 1) first
            ((writeMembers (level + 1) others).characters
              ++ ((lineAt level).characters ++ '}' :: rest))
          -- Every member is written with a comma, so there is fuel enough to read them all.
          have length := written_members_length (level + 1) others
          have members := read_written_members depth (level + 1) level
            ((writtenMember (level + 1) first ++ ((writeMembers (level + 1) others).characters
              ++ ((lineAt level).characters ++ '}' :: rest))).length + 1) first others rest
            (by simp only [List.length_append]; omega) reads
          rw [written_object]
          simp only [List.cons_append, List.append_assoc, List.nil_append]
          rw [read_object depth _ more ((skipped _).trans starts), skipped, members]
          simp only [Except.map, OrderedMap.of_entries_distinct _ distinct]

end Members

section Whole

theorem written_members_storable (level : Nat) (members : List (WideText × Json))
    (storable : ∀ entry ∈ members, (writeText entry.1).all CodePoint.isStorable = true ∧
      (write level entry.2).all CodePoint.isStorable = true) :
    (writeMembers level members).all CodePoint.isStorable = true := by
  induction members with
  | nil => rfl
  | cons entry rest induction =>
      obtain ⟨⟨name, value⟩, later⟩ := List.forall_mem_cons.mp storable
      have colon : (WideText.ofString ": ").all CodePoint.isStorable = true := by decide
      rw [writeMembers, List.all_cons]
      simp only [List.all_append, line_start_storable, name, colon, value, induction later]
      rfl

/-- What is written for a value of texts comes through a file as it is. -/
theorem written_storable (depth level : Nat) (value : Json) (textual : IsTextual depth value) :
    (write level value).all CodePoint.isStorable = true := by
  induction textual generalizing level with
  | null => rw [write]; decide
  | text depth value => rw [write]; exact written_text_storable value
  | object depth members distinct names values induction =>
      have storable : ∀ entry ∈ members, (writeText entry.1).all CodePoint.isStorable = true ∧
          (write (level + 1) entry.2).all CodePoint.isStorable = true := by
        intro entry member
        obtain ⟨name, isName⟩ := names entry member
        exact ⟨isName ▸ written_text_storable name, induction entry member (level + 1)⟩
      cases members with
      | nil => rw [write]; decide
      | cons entry rest =>
          obtain ⟨⟨name, value⟩, later⟩ := List.forall_mem_cons.mp storable
          have colon : (WideText.ofString ": ").all CodePoint.isStorable = true := by decide
          have members := written_members_storable (level + 1) rest later
          rw [write, List.all_cons]
          simp only [List.all_append, line_start_storable, name, colon, value, members]
          rfl

/-- A text that holds one written value and nothing else is read as that value. -/
theorem parse_rendered (value : Json) (textual : IsTextual nestingLimit value) :
    parse (render value).characters = .ok value := by
  obtain ⟨first, others, starts, -, noMark⟩ := written_starts nestingLimit 0 value textual
  have skipped := skip_before_written nestingLimit 0 value [] textual
  have read := read_written nestingLimit 0 value textual []
  rw [List.append_nil] at skipped read
  have unmarked : (render value).characters.head? ≠ some '\ufeff' := by
    rw [render, starts]
    exact fun marked => noMark (Option.some.inj marked)
  rw [parse, if_neg unmarked, parseWhole, render, skipped, read]
  rfl

end Whole

end Json

end ReadmePress
