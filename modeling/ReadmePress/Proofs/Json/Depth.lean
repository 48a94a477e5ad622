import ReadmePress.Json.Parser

/-!
How deep a text is nested that is refused for its depth: more brackets are open at one place in
it, outside of quoted texts, than the reader follows. Each reader is followed through a text with
a bound on the brackets that are open, so that the bound holds for what it leaves.
-/

namespace ReadmePress

namespace Json

/-- The most brackets that are open at one place, where so many are open before the text. Those
inside quotation marks do not count, and a backslash there hides the character after it. -/
def deepest : (quoted : Bool) → (level : Nat) → List Char → Nat
  | _, level, [] => level
  | true, level, '\\' :: _ :: rest => deepest true level rest
  | true, level, character :: rest =>
      if character = '"' then deepest false level rest else deepest true level rest
  | false, level, character :: rest =>
      if character = '"' then deepest true level rest
      else if character = '[' || character = '{' then deepest false (level + 1) rest
      else if character = ']' || character = '}' then max level (deepest false (level - 1) rest)
      else deepest false level rest

section Deepest

theorem deepest_opening (level : Nat) (bracket : Char) (rest : List Char)
    (opens : bracket = '[' ∨ bracket = '{') :
    deepest false level (bracket :: rest) = deepest false (level + 1) rest := by
  rcases opens with rfl | rfl <;> rfl

theorem deepest_closing (level : Nat) (bracket : Char) (rest : List Char)
    (closes : bracket = ']' ∨ bracket = '}') :
    deepest false level (bracket :: rest) = max level (deepest false (level - 1) rest) := by
  rcases closes with rfl | rfl <;> rfl

theorem deepest_quote (level : Nat) (rest : List Char) :
    deepest false level ('"' :: rest) = deepest true level rest := by
  rfl

theorem quoted_end (level : Nat) (rest : List Char) :
    deepest true level ('"' :: rest) = deepest false level rest := by
  rfl

theorem quoted_escape (level : Nat) (letter : Char) (rest : List Char) :
    deepest true level ('\\' :: letter :: rest) = deepest true level rest := by
  rfl

theorem quoted_character (level : Nat) (character : Char) (rest : List Char)
    (noQuote : character ≠ '"') (noSlash : character ≠ '\\') :
    deepest true level (character :: rest) = deepest true level rest := by
  rw [deepest]
  · rw [if_neg noQuote]
  · rintro _ _ rfl
    exact absurd rfl noSlash

/-- What tells the depth of a text: quotation marks and brackets. -/
def marks : List Char := ['"', '[', '{', ']', '}']

def isPlain (character : Char) : Bool := !marks.contains character

theorem plain_of (accepts : Char → Bool) (never : marks.any accepts = false)
    (character : Char) (accepted : accepts character = true) : isPlain character = true := by
  rw [isPlain, Bool.not_eq_true', ← Bool.not_eq_true, List.contains_iff_mem]
  intro isMark
  exact absurd accepted (List.any_eq_false.mp never character isMark)

theorem deepest_plain (level : Nat) (front rest : List Char)
    (plain : ∀ character ∈ front, isPlain character = true) :
    deepest false level (front ++ rest) = deepest false level rest := by
  induction front with
  | nil => rfl
  | cons character front induction =>
      obtain ⟨here, later⟩ := List.forall_mem_cons.mp plain
      have plain : character ≠ '"' ∧ character ≠ '[' ∧ character ≠ '{' ∧ character ≠ ']' ∧
          character ≠ '}' := by
        simpa [isPlain, marks] using here
      rw [List.cons_append, deepest, ← induction later]
      simp [plain]

theorem level_le_deepest (quoted : Bool) (level : Nat) (text : List Char) :
    level ≤ deepest quoted level text := by
  fun_induction deepest quoted level text with
  | case1 => exact Nat.le_refl _
  | case7 => exact Nat.le_max_left _ _
  | case6 => exact Nat.le_of_succ_le ‹_›
  | _ => assumption

end Deepest

/-- A reading gives a value and a rest that are good, or fails, and not for the depth unless that
is deep. -/
def Leaves {Value : Type} (deep : Prop) (good : Value → List Char → Prop) :
    Except Fault (Value × List Char) → Prop
  | .ok (value, rest) => good value rest
  | .error fault => fault = .tooDeep → deep

section Leaves

variable {Value Other : Type} {deep : Prop} {good : Value → List Char → Prop}

theorem leaves_bind {better : Other → List Char → Prop} (first : Except Fault (Value × List Char))
    (next : Value × List Char → Except Fault (Other × List Char))
    (leaves : Leaves deep good first)
    (onward : ∀ value rest, good value rest → Leaves deep better (next (value, rest))) :
    Leaves deep better (first >>= next) := by
  cases first with
  | error fault => exact leaves
  | ok found => exact onward found.1 found.2 leaves

theorem leaves_map {better : Other → List Char → Prop}
    (outcome : Except Fault (Value × List Char))
    (change : Value × List Char → Other × List Char) (leaves : Leaves deep good outcome)
    (onward : ∀ value rest, good value rest →
      better (change (value, rest)).1 (change (value, rest)).2) :
    Leaves deep better (outcome.map change) := by
  cases outcome with
  | error fault => exact leaves
  | ok found => exact onward found.1 found.2 leaves

theorem leaves_shallow (outcome : Except Fault (Value × List Char))
    (leaves : Leaves False good outcome) : Leaves deep good outcome := by
  cases outcome with
  | ok found => exact leaves
  | error fault => exact fun same => (leaves same).elim

end Leaves

section Texts

variable (level top : Nat)

theorem hex_digit_plain (character : Char) (value : Nat)
    (isDigit : hexDigitValue? character = some value) : character ≠ '"' ∧ character ≠ '\\' := by
  constructor
  · rintro rfl
    exact absurd isDigit nofun
  · rintro rfl
    exact absurd isDigit nofun

theorem deepest_digits (first second third fourth : Char) (value : Nat) (rest : List Char)
    (digits : fourDigits? first second third fourth = some value) :
    deepest true level (first :: second :: third :: fourth :: rest) =
      deepest true level rest := by
  simp only [fourDigits?, bind, Option.bind_eq_some_iff] at digits
  obtain ⟨high, isHigh, upper, isUpper, lower, isLower, low, isLow, -⟩ := digits
  have passes (character : Char) (value : Nat) (rest : List Char)
      (isDigit : hexDigitValue? character = some value) :
      deepest true level (character :: rest) = deepest true level rest :=
    quoted_character level character rest (hex_digit_plain character value isDigit).1
      (hex_digit_plain character value isDigit).2
  rw [passes first high _ isHigh, passes second upper _ isUpper, passes third lower _ isLower,
    passes fourth low _ isLow]

theorem pair_leaves (high : Nat) (text : List Char) (within : deepest true level text ≤ top) :
    Leaves False (fun _ rest => deepest true level rest ≤ top) (pairOrAlone high text) := by
  unfold pairOrAlone
  split
  next first second third fourth more =>
    split
    next => exact within
    next =>
      split
      next => exact nofun
      next low digits =>
        split
        next =>
          rw [quoted_escape, deepest_digits level first second third fourth low more digits]
            at within
          exact within
        next => exact within
  next => exact within

theorem unicode_escape_leaves (text : List Char) (within : deepest true level text ≤ top) :
    Leaves False (fun _ rest => deepest true level rest ≤ top) (readUnicodeEscape text) := by
  unfold readUnicodeEscape
  split
  next first second third fourth next more =>
    split
    next => exact nofun
    next value digits =>
      rw [deepest_digits level first second third fourth value _ digits] at within
      split
      next => exact pair_leaves level top value _ within
      next => exact within
  next => exact nofun

/-- What follows a piece of a text: more of the text, but for the closing mark. -/
def deepestAfter : TextPiece → List Char → Nat
  | .closed => deepest false level
  | .point _ => deepest true level

theorem piece_leaves (opened : Nat) (text : List Char) (within : deepest true level text ≤ top) :
    Leaves False (fun piece rest => deepestAfter level piece rest ≤ top)
      (readPiece opened text) := by
  unfold readPiece
  split
  next => exact nofun
  next rest =>
    rw [quoted_end] at within
    exact within
  next => exact nofun
  next rest =>
    rw [quoted_escape] at within
    exact leaves_bind _ _ (unicode_escape_leaves level top rest within) fun _ _ after => after
  next letter more _ =>
    rw [quoted_escape] at within
    split
    next => exact within
    next => exact nofun
  next character more noQuote noEnd noNumber noEscape =>
    have noSlash : character ≠ '\\' := by
      intro isSlash
      cases more with
      | nil => exact noEnd isSlash rfl
      | cons letter others => exact noEscape letter others isSlash rfl
    rw [quoted_character level character more noQuote noSlash] at within
    split
    next => exact nofun
    next => exact within

theorem pieces_leave (opened fuel : Nat) (text : List Char)
    (within : deepest true level text ≤ top) :
    Leaves False (fun _ rest => deepest false level rest ≤ top)
      (readPieces opened fuel text) := by
  induction fuel generalizing text with
  | zero => exact nofun
  | succ fuel induction =>
      rw [readPieces]
      apply leaves_bind _ _ (piece_leaves level top opened text within)
      intro piece rest after
      cases piece with
      | closed => exact after
      | point value => exact leaves_bind _ _ (induction rest after) fun _ _ closed => closed

theorem text_leaves (text : List Char) (within : deepest true level text ≤ top) :
    Leaves False (fun _ rest => deepest false level rest ≤ top) (readText text) :=
  pieces_leave level top _ _ text within

end Texts

section Scalars

/-- A reader takes a front off a text that holds neither brackets nor quotation marks. -/
structure TakesPlain (text : List Char) (taken : List Char × List Char) : Prop where
  whole : taken.1 ++ taken.2 = text
  plain : ∀ character ∈ taken.1, isPlain character = true

theorem takes_plain_then (text rest : List Char) (front : List Char)
    (taken : List Char × List Char) (first : TakesPlain text (front, rest))
    (second : TakesPlain rest taken) : TakesPlain text (front ++ taken.1, taken.2) where
  whole := by rw [← first.whole, ← second.whole, List.append_assoc]
  plain := List.forall_mem_append.mpr ⟨first.plain, second.plain⟩

theorem takes_plain_character (character : Char) (rest : List Char)
    (plain : isPlain character = true) : TakesPlain (character :: rest) ([character], rest) where
  whole := rfl
  plain := List.forall_mem_singleton.mpr plain

theorem takes_nothing (text : List Char) : TakesPlain text ([], text) where
  whole := rfl
  plain := nofun

theorem take_digits_plain (text : List Char) : TakesPlain text (takeDigits text) where
  whole := List.takeWhile_append_dropWhile
  plain := fun character member =>
    plain_of isDigit (by decide) character (List.all_eq_true.mp List.all_takeWhile character member)

theorem take_fraction_plain (text : List Char) : TakesPlain text (takeFraction text) := by
  unfold takeFraction
  split
  next digit rest =>
    split
    next =>
      exact takes_plain_then _ _ _ _ (takes_plain_character '.' _ (by decide))
        (take_digits_plain (digit :: rest))
    next => exact takes_nothing _
  next => exact takes_nothing _

theorem take_exponent_plain (text : List Char) : TakesPlain text (takeExponent text) := by
  unfold takeExponent
  split
  next mark rest =>
    split
    next isMark =>
      have markPlain : isPlain mark = true :=
        plain_of (fun mark => mark = 'e' || mark = 'E') (by decide) mark isMark
      split
      next sign unsigned isSign =>
        have signed : TakesPlain rest (sign, unsigned) := by
          rw [← isSign]
          split
          next => exact takes_plain_character _ _ (by decide)
          next => exact takes_plain_character _ _ (by decide)
          next => exact takes_nothing _
        split
        next => exact takes_nothing _
        next digits more _ taken =>
          have counted := take_digits_plain unsigned
          rw [taken] at counted
          exact takes_plain_then _ _ _ _ (takes_plain_character mark rest markPlain)
            (takes_plain_then _ _ _ _ signed counted)
    next => exact takes_nothing _
  next => exact takes_nothing _

theorem take_whole_plain (text : List Char) : TakesPlain text (takeWhole text) := by
  unfold takeWhole
  split
  next rest => exact takes_plain_character '0' rest (by decide)
  next => exact take_digits_plain text

theorem deepest_taken (level : Nat) (text : List Char) (taken : List Char × List Char)
    (takes : TakesPlain text taken) : deepest false level taken.2 = deepest false level text := by
  rw [← takes.whole]
  exact (deepest_plain level taken.1 taken.2 takes.plain).symm

variable (level top : Nat)

theorem number_leaves (text : List Char) (within : deepest false level text ≤ top) :
    Leaves False (fun _ rest => deepest false level rest ≤ top) (readNumber text) := by
  unfold readNumber
  split
  next sign unsigned isSign =>
    have signed : TakesPlain text (sign, unsigned) := by
      rw [← isSign]
      split
      next => exact takes_plain_character _ _ (by decide)
      next => exact takes_nothing _
    split
    next => exact nofun
    next whole afterWhole _ isWhole =>
      split
      next fraction afterFraction isFraction =>
        split
        next exponent rest isExponent =>
          have integral := takes_plain_then _ _ _ _ signed (isWhole ▸ take_whole_plain unsigned)
          have fractional := takes_plain_then _ _ _ _ integral
            (isFraction ▸ take_fraction_plain afterWhole)
          have number := takes_plain_then _ _ _ _ fractional
            (isExponent ▸ take_exponent_plain afterFraction)
          have left := Nat.le_trans (Nat.le_of_eq (deepest_taken level text _ number)) within
          split
          next =>
            split
            next => exact left
            next => exact nofun
          next => exact left

theorem named_values_plain : ∀ entry ∈ namedValues,
    entry.1.toList.all isPlain = true := by
  decide

theorem drop_word_plain (word : String) (text rest : List Char)
    (plain : ∀ character ∈ word.toList, isPlain character = true)
    (dropped : dropWord? word text = some rest) : TakesPlain text (word.toList, rest) := by
  unfold dropWord? at dropped
  split at dropped
  next isPrefix =>
    obtain rfl := Option.some.inj dropped
    rw [← String.length_toList]
    exact ⟨List.prefix_iff_eq_append.mp (List.isPrefixOf_iff_prefix.mp isPrefix), plain⟩
  next => exact absurd dropped nofun

theorem scalar_leaves (text : List Char) (within : deepest false level text ≤ top) :
    Leaves False (fun _ rest => deepest false level rest ≤ top) (readScalar text) := by
  unfold readScalar
  split
  next found isNamed =>
    obtain ⟨entry, member, taken⟩ := List.exists_of_findSome?_eq_some isNamed
    obtain ⟨rest, dropped, rfl⟩ := Option.map_eq_some_iff.mp taken
    have plain := List.all_eq_true.mp (named_values_plain entry member)
    have takes := drop_word_plain entry.1 text rest plain dropped
    exact Nat.le_trans (Nat.le_of_eq (deepest_taken level text _ takes)) within
  next => exact number_leaves level top text within

end Scalars

section Values

variable (level top : Nat)

theorem deepest_after_space (text : List Char) :
    deepest false level (skipSpace text) = deepest false level text := by
  have spaces : TakesPlain text (text.takeWhile isSpace, skipSpace text) :=
    { whole := List.takeWhile_append_dropWhile
      plain := fun character member =>
        plain_of isSpace (by decide) character
          (List.all_eq_true.mp List.all_takeWhile character member) }
  exact deepest_taken level text _ spaces

/-- A character between values that is no bracket. -/
theorem deepest_after_mark (mark : Char) (rest text : List Char) (plain : isPlain mark = true)
    (next : skipSpace text = mark :: rest) :
    deepest false level (skipSpace rest) = deepest false level text := by
  rw [deepest_after_space, ← deepest_after_space level text, next]
  exact (deepest_plain level [mark] rest (List.forall_mem_singleton.mpr plain)).symm

/-- A closing bracket leads back to the level before. -/
theorem deepest_after_closing (bracket : Char) (rest text : List Char)
    (closes : bracket = ']' ∨ bracket = '}') (next : skipSpace text = bracket :: rest)
    (within : deepest false level text ≤ top) : deepest false (level - 1) rest ≤ top := by
  rw [← deepest_after_space, next, deepest_closing level bracket rest closes] at within
  exact Nat.le_trans (Nat.le_max_right _ _) within

/-- A reader of values that keeps within a bound, unless it fails for a depth that is beyond. -/
def KeepsWithin (deep : Prop) (reader : Reader Json) : Prop :=
  ∀ text, deepest false level text ≤ top →
    Leaves deep (fun _ rest => deepest false level rest ≤ top) (reader text)

theorem items_leave (deep : Prop) (reader : Reader Json) (keeps : KeepsWithin level top deep reader)
    (fuel : Nat) (text : List Char) (within : deepest false level text ≤ top) :
    Leaves deep (fun _ rest => deepest false (level - 1) rest ≤ top)
      (readItems reader fuel text) := by
  induction fuel generalizing text with
  | zero => exact nofun
  | succ fuel induction =>
      rw [readItems]
      apply leaves_bind _ _ (keeps text within)
      intro item rest after
      simp only
      split
      next next => exact deepest_after_closing level top _ _ rest (Or.inl rfl) next after
      next next =>
        have due := deepest_after_mark level _ _ rest (by decide) next
        exact leaves_bind _ _ (induction _ (Nat.le_trans (Nat.le_of_eq due) after))
          fun _ _ closed => closed
      next => exact nofun

theorem name_leaves (text : List Char) (within : deepest false level text ≤ top) :
    Leaves False (fun _ rest => deepest false level rest ≤ top) (readName text) := by
  unfold readName
  split
  next rest =>
    rw [deepest_quote] at within
    apply leaves_bind _ _ (text_leaves level top rest within)
    intro name rest after
    simp only
    split
    next next =>
      exact Nat.le_trans (Nat.le_of_eq (deepest_after_mark level _ _ rest (by decide) next)) after
    next => exact nofun
  next => exact nofun

theorem members_leave (deep : Prop) (reader : Reader Json)
    (keeps : KeepsWithin level top deep reader) (fuel : Nat) (text : List Char)
    (within : deepest false level text ≤ top) :
    Leaves deep (fun _ rest => deepest false (level - 1) rest ≤ top)
      (readMembers reader fuel text) := by
  induction fuel generalizing text with
  | zero => exact nofun
  | succ fuel induction =>
      rw [readMembers]
      apply leaves_bind _ _ (leaves_shallow _ (name_leaves level top text within))
      intro name due afterName
      apply leaves_bind _ _ (keeps due afterName)
      intro value rest after
      simp only
      split
      next next => exact deepest_after_closing level top _ _ rest (Or.inr rfl) next after
      next next =>
        have due := deepest_after_mark level _ _ rest (by decide) next
        exact leaves_bind _ _ (induction _ (Nat.le_trans (Nat.le_of_eq due) after))
          fun _ _ closed => closed
      next => exact nofun

/-- With brackets open already a value is too deep only where the bound is higher than those and
the levels that the reader may go down together. -/
theorem value_keeps_within (depth : Nat) :
    KeepsWithin level top (level + depth < top) (readValue depth) := by
  induction depth generalizing level with
  | zero =>
      intro text within
      unfold readValue
      split
      next rest =>
        rw [deepest_opening level _ rest (Or.inl rfl)] at within
        exact fun _ => Nat.lt_of_lt_of_le (level_le_deepest false (level + 1) rest) within
      next rest =>
        rw [deepest_opening level _ rest (Or.inr rfl)] at within
        exact fun _ => Nat.lt_of_lt_of_le (level_le_deepest false (level + 1) rest) within
      next rest =>
        rw [deepest_quote] at within
        exact leaves_map _ _ (leaves_shallow _ (text_leaves level top rest within))
          fun _ _ after => after
      next => exact leaves_shallow _ (scalar_leaves level top _ within)
  | succ depth induction =>
      intro text within
      unfold readValue
      -- Inside a bracket one more is open, and the reader may go down one level less.
      have below := induction (level + 1)
      rw [Nat.add_right_comm level 1 depth] at below
      split
      next rest =>
        rw [deepest_opening level _ rest (Or.inl rfl)] at within
        split
        next next => exact deepest_after_closing (level + 1) top _ _ rest (Or.inl rfl) next within
        next =>
          rw [← deepest_after_space] at within
          exact leaves_map _ _ (items_leave (level + 1) top _ _ below _ _ within)
            fun _ _ after => after
      next rest =>
        rw [deepest_opening level _ rest (Or.inr rfl)] at within
        split
        next next => exact deepest_after_closing (level + 1) top _ _ rest (Or.inr rfl) next within
        next =>
          rw [← deepest_after_space] at within
          exact leaves_map _ _ (members_leave (level + 1) top _ _ below _ _ within)
            fun _ _ after => after
      next rest =>
        rw [deepest_quote] at within
        exact leaves_map _ _ (leaves_shallow _ (text_leaves level top rest within))
          fun _ _ after => after
      next => exact leaves_shallow _ (scalar_leaves level top _ within)

/-- A text that is refused for its depth has more brackets open at one place than the reader
follows. -/
theorem too_deep_opens (text : List Char) (deep : parse text = .error .tooDeep) :
    nestingLimit < deepest false 0 text := by
  rw [parse] at deep
  split at deep
  next => exact absurd deep nofun
  next =>
    have leaves := value_keeps_within 0 (deepest false 0 text) nestingLimit (skipSpace text)
      (Nat.le_of_eq (deepest_after_space 0 text))
    rw [parseWhole] at deep
    cases read : readValue nestingLimit (skipSpace text) with
    | error fault =>
        rw [read] at leaves deep
        obtain rfl := Except.error.inj deep
        exact Nat.lt_of_le_of_lt (Nat.le_add_left _ _) (leaves rfl)
    | ok found =>
        rw [read] at deep
        simp only [bind, Except.bind] at deep
        split at deep
        next => exact absurd deep nofun
        next => exact absurd deep nofun

theorem read_brackets (depth : Nat) (rest : List Char) :
    readValue depth (List.replicate (depth + 1) '[' ++ rest) = .error .tooDeep := by
  induction depth with
  | zero => rfl
  | succ depth induction =>
      rw [List.replicate_succ, List.cons_append] at induction ⊢
      have due : skipSpace (List.replicate (depth + 1) '[' ++ rest) =
          '[' :: (List.replicate depth '[' ++ rest) := rfl
      have failed (fuel : Nat) : readItems (readValue depth) (fuel + 1)
          ('[' :: (List.replicate depth '[' ++ rest)) = .error .tooDeep := by
        rw [readItems, induction]
        rfl
      unfold readValue
      simp only [due]
      exact congrArg (Except.map _) (failed _)

/-- Opening brackets alone, more than the reader follows, are refused for their depth. -/
theorem brackets_too_deep (count : Nat) (rest : List Char) (beyond : nestingLimit < count) :
    parse (List.replicate count '[' ++ rest) = .error .tooDeep := by
  obtain ⟨extra, rfl⟩ : ∃ extra, count = nestingLimit + 1 + extra :=
    ⟨count - (nestingLimit + 1), by omega⟩
  have read := read_brackets nestingLimit (List.replicate extra '[' ++ rest)
  rw [← List.append_assoc, List.replicate_append_replicate] at read
  have starts : List.replicate (nestingLimit + 1 + extra) '[' ++ rest =
      '[' :: (List.replicate (nestingLimit + extra) '[' ++ rest) := by
    rw [Nat.add_right_comm, List.replicate_succ, List.cons_append]
  have skipped : skipSpace (List.replicate (nestingLimit + 1 + extra) '[' ++ rest) =
      List.replicate (nestingLimit + 1 + extra) '[' ++ rest := by
    rw [starts]
    rfl
  have unmarked : (List.replicate (nestingLimit + 1 + extra) '[' ++ rest).head? ≠
      some '\ufeff' := by
    rw [starts]
    exact nofun
  rw [parse, if_neg unmarked, parseWhole, skipped, read]
  rfl

end Values

end Json

end ReadmePress
