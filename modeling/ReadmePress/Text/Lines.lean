/-!
Lines of a text. Three rules live here: the line ends that reading a file unifies, the fields
between occurrences of one separator, and the lines of a text under every line boundary that
the character set knows.
-/

namespace ReadmePress.Text

/-- Writes every carriage return, with the line feed that may follow it, as one line feed. -/
def unifyNewlines : List Char → List Char
  | [] => []
  | '\r' :: '\n' :: rest => '\n' :: unifyNewlines rest
  | character :: rest =>
      (if character = '\r' then '\n' else character) :: unifyNewlines rest

/-- The fields between the separators: always one more than there are separators. -/
def split (separator : Char) : List Char → List (List Char)
  | [] => [[]]
  | character :: rest =>
      if character = separator then [] :: split separator rest
      else match split separator rest with
        | [] => [[character]]
        | field :: fields => (character :: field) :: fields

/-- Puts a separator between the fields. -/
def join (separator : List Char) : List (List Char) → List Char
  | [] => []
  | [field] => field
  | field :: fields => field ++ separator ++ join separator fields

/-- Characters that end a line, apart from the pair of carriage return and line feed. -/
def isLineBreak (character : Char) : Bool :=
  let code := character.toNat
  (10 ≤ code && code ≤ 13) || (28 ≤ code && code ≤ 30) || code == 0x85 ||
    code == 0x2028 || code == 0x2029

/-- The lines of a text, given those characters of the current line that were already read,
in reverse. A text that ends in a line break has no empty last line. -/
def linesAfter (pendingReversed : List Char) : List Char → List (List Char)
  | [] => if pendingReversed.isEmpty then [] else [pendingReversed.reverse]
  | '\r' :: '\n' :: rest => pendingReversed.reverse :: linesAfter [] rest
  | character :: rest =>
      if isLineBreak character then pendingReversed.reverse :: linesAfter [] rest
      else linesAfter (character :: pendingReversed) rest

/-- The lines of a text without their line breaks. -/
def lines (text : List Char) : List (List Char) := linesAfter [] text

theorem split_ne_nil (separator : Char) (text : List Char) : split separator text ≠ [] := by
  cases text with
  | nil => simp [split]
  | cons character rest =>
      simp only [split]
      split
      · simp
      · split <;> simp

/-- Joining the fields gives back the text they were split from. -/
theorem join_split (separator : Char) (text : List Char) :
    join [separator] (split separator text) = text := by
  induction text with
  | nil => rfl
  | cons character rest induction =>
      simp only [split]
      split
      next equal =>
        match fields : split separator rest with
        | [] => exact absurd fields (split_ne_nil separator rest)
        | field :: more => rw [fields] at induction; simp [join, induction, equal]
      next different =>
        match fields : split separator rest with
        | [] => exact absurd fields (split_ne_nil separator rest)
        | [field] => rw [fields] at induction; simp_all [join]
        | field :: second :: more => rw [fields] at induction; simp_all [join]

end ReadmePress.Text
