import ReadmePress.Facts.EnvironmentKeys
import ReadmePress.Proofs.Facts.RouteCalls

/-!
The grammar of accesses to environment variables, and the scan for them. Accesses never overlap,
so a scan finds all of them. The key after a dot ends where its characters end, which need not be
the end of the name in the text: the key is a whole name unless a small letter or a dollar sign
follows it.
-/

namespace ReadmePress

open ReadmePress.Text

/-- How an environment variable is read, and its key. -/
inductive EnvironmentAccess where
  | afterDot (key : List Char)
  | inBrackets (key : List Char)

namespace EnvironmentAccess

def key : EnvironmentAccess → List Char
  | .afterDot key => key
  | .inBrackets key => key

end EnvironmentAccess

/-- A text of capitals, digits and low lines that is not empty. -/
structure IsKeyText (key : List Char) : Prop where
  notEmpty : key ≠ []
  allowed : ∀ character ∈ key, EnvironmentKey.isKeyCharacter character = true

/-- An access reads a key after a dot, as far as key characters go, or in brackets between two
quotes, whatever their kinds. In brackets white space may stand on both sides of the quotes. -/
inductive EnvironmentReading : PassageRule EnvironmentAccess where
  | dotted (before after : Option Char) (key : List Char) (isKey : IsKeyText key)
      (ends : ∀ character ∈ after, EnvironmentKey.isKeyCharacter character = false) :
      EnvironmentReading before ("process.env".toList ++ '.' :: key) after (.afterDot key)
  | bracketed (before after : Option Char) (key gap space : List Char) (opening closing : Char)
      (isKey : IsKeyText key) (gapBlank : ∀ character ∈ gap, isBlank character = true)
      (spaceBlank : ∀ character ∈ space, isBlank character = true)
      (opens : Route.isQuote opening = true) (closes : Route.isQuote closing = true) :
      EnvironmentReading before
        ("process.env".toList ++ '[' :: gap ++ opening :: key ++ closing :: space ++ [']']) after
        (.inBrackets key)

namespace EnvironmentKey

theorem take_key_found (text key rest : List Char) (found : takeKey? text = some (key, rest)) :
    text = key ++ rest ∧ IsKeyText key ∧
      ∀ character ∈ rest.head?, isKeyCharacter character = false := by
  have cut := List.takeWhile_append_dropWhile (p := isKeyCharacter) (l := text)
  have allowed := List.all_eq_true.mp (List.all_takeWhile (p := isKeyCharacter) (l := text))
  have ends := List.head?_dropWhile_not isKeyCharacter text
  simp only [takeKey?] at found
  split at found
  next => simp at found
  next notEmpty =>
    rw [Option.some.injEq, Prod.mk.injEq] at found
    obtain ⟨rfl, rfl⟩ := found
    refine ⟨cut.symm, ⟨notEmpty, allowed⟩, ?_⟩
    intro character first
    rw [Option.mem_def.mp first] at ends
    simpa using ends

theorem take_key_finds (key rest : List Char) (isKey : IsKeyText key)
    (ends : ∀ character ∈ rest.head?, isKeyCharacter character = false) :
    takeKey? (key ++ rest) = some (key, rest) := by
  have restStops : rest.takeWhile isKeyCharacter = [] ∧ rest.dropWhile isKeyCharacter = rest := by
    cases rest with
    | nil => exact ⟨rfl, rfl⟩
    | cons first others =>
        have stops := ends first rfl
        exact ⟨List.takeWhile_cons_of_neg (by simp [stops]),
          List.dropWhile_cons_of_neg (by simp [stops])⟩
  rw [takeKey?, List.takeWhile_append_of_pos isKey.allowed,
    List.dropWhile_append_of_pos isKey.allowed, restStops.1, restStops.2, List.append_nil]
  cases key with
  | nil => exact absurd rfl isKey.notEmpty
  | cons first others => rfl

theorem take_quote_iff (text rest : List Char) :
    takeQuote? text = some rest ↔
      ∃ quote, text = quote :: rest ∧ Route.isQuote quote = true := by
  cases text with
  | nil => simp [takeQuote?]
  | cons character more =>
      simp only [takeQuote?, Option.ite_none_right_eq_some, Option.some.injEq, List.cons.injEq]
      constructor
      · rintro ⟨isQuote, rfl⟩
        exact ⟨character, ⟨rfl, rfl⟩, isQuote⟩
      · rintro ⟨quote, ⟨rfl, rfl⟩, isQuote⟩
        exact ⟨isQuote, rfl⟩

theorem quote_is_no_key_character (quote : Char) (isQuote : Route.isQuote quote = true) :
    isKeyCharacter quote = false := by
  simp only [Route.isQuote, Bool.or_eq_true, beq_iff_eq] at isQuote
  rcases isQuote with (rfl | rfl) | rfl <;> decide

theorem take_bracketed_found (text key rest : List Char)
    (found : takeBracketed? text = some (key, rest)) :
    ∃ gap opening closing space,
      text = gap ++ opening :: key ++ closing :: space ++ ']' :: rest ∧ IsKeyText key ∧
        (∀ character ∈ gap, isBlank character = true) ∧
        (∀ character ∈ space, isBlank character = true) ∧
        Route.isQuote opening = true ∧ Route.isQuote closing = true := by
  simp only [takeBracketed?, Option.bind_eq_bind, Option.bind_eq_some_iff, Option.some.injEq,
    Prod.mk.injEq, Prod.exists] at found
  obtain ⟨quoted, isOpening, key, afterKey, isKey, afterQuote, isClosing, after, isBracket, rfl,
    rfl⟩ := found
  obtain ⟨gap, gapBlank, gapCut⟩ := trim_start_cut text
  obtain ⟨space, spaceBlank, spaceCut⟩ := trim_start_cut afterQuote
  obtain ⟨opening, openingCut, opens⟩ := (take_quote_iff _ _).mp isOpening
  obtain ⟨keyCut, keyText, -⟩ := take_key_found quoted key afterKey isKey
  obtain ⟨closing, closingCut, closes⟩ := (take_quote_iff _ _).mp isClosing
  rw [Route.take_char_iff] at isBracket
  refine ⟨gap, opening, closing, space, ?_, keyText, gapBlank, spaceBlank, opens, closes⟩
  rw [gapCut, openingCut, keyCut, closingCut, spaceCut, isBracket]
  simp

theorem take_bracketed_finds (key rest gap space : List Char) (opening closing : Char)
    (isKey : IsKeyText key) (gapBlank : ∀ character ∈ gap, isBlank character = true)
    (spaceBlank : ∀ character ∈ space, isBlank character = true)
    (opens : Route.isQuote opening = true) (closes : Route.isQuote closing = true) :
    takeBracketed? (gap ++ opening :: (key ++ closing :: (space ++ ']' :: rest))) =
      some (key, rest) := by
  have openingSeen := Route.quote_is_not_blank opening opens
  have closingEnds : ∀ character ∈ (closing :: (space ++ ']' :: rest)).head?,
      isKeyCharacter character = false := by
    intro character first
    cases first
    exact quote_is_no_key_character closing closes
  rw [takeBracketed?, trim_start_gap gap _ opening gapBlank openingSeen]
  simp only [Option.bind_eq_bind]
  rw [(take_quote_iff _ _).mpr ⟨opening, rfl, opens⟩, Option.bind_some,
    take_key_finds key _ isKey closingEnds, Option.bind_some,
    (take_quote_iff _ _).mpr ⟨closing, rfl, closes⟩, Option.bind_some,
    trim_start_gap space rest ']' spaceBlank (by decide), (Route.take_char_iff ']' _ _).mpr rfl,
    Option.bind_some]

/-- The search for an access at a place. -/
def search : Search EnvironmentAccess := fun _ text =>
  if accessMark.toList.isPrefixOf text then
    match text.drop accessMark.length with
    | '.' :: rest => (takeKey? rest).map fun found => (.afterDot found.1, found.2)
    | '[' :: rest => (takeBracketed? rest).map fun found => (.inBrackets found.1, found.2)
    | _ => none
  else none

theorem access_at_eq (before : Option Char) (text : List Char) :
    accessAt? text = (search before text).map fun found => (found.1.key, found.2) := by
  simp only [accessAt?, search]
  split
  next =>
    cases text.drop accessMark.length with
    | nil => rfl
    | cons first rest =>
        by_cases dot : first = '.'
        · simp [dot, Function.comp_def, EnvironmentAccess.key]
        · by_cases bracket : first = '['
          · simp [bracket, Function.comp_def, EnvironmentAccess.key]
          · simp [dot, bracket]
  next => rfl

theorem scan_from_eq (passing : Nat) (before : Option Char) (text : List Char) :
    scanFrom passing text =
      (scanWith search passing before text).map fun access => String.ofList access.key := by
  induction text generalizing passing before with
  | nil => simp [scanFrom, scanWith]
  | cons character rest induction =>
      have step := fun passing => induction passing (some character)
      cases passing with
      | succ passing => rw [scanFrom, scanWith, step]
      | zero =>
          rw [scanFrom, scanWith, access_at_eq before]
          cases search before (character :: rest) with
          | none => exact step 0
          | some result => simp only [Option.map_some, step, List.map_cons]

theorem search_found (before : Option Char) (text remaining : List Char)
    (access : EnvironmentAccess) (found : search before text = some (access, remaining)) :
    ∃ piece, text = piece ++ remaining ∧
      EnvironmentReading before piece remaining.head? access := by
  rw [search, Option.ite_none_right_eq_some] at found
  obtain ⟨starts, found⟩ := found
  obtain ⟨rest, rfl⟩ := List.isPrefixOf_iff_prefix.mp starts
  rw [← String.length_toList, List.drop_left] at found
  split at found
  next dotted =>
    obtain ⟨⟨key, after⟩, isKey, same⟩ := Option.map_eq_some_iff.mp found
    obtain ⟨rfl, rfl⟩ := Prod.mk.inj same
    obtain ⟨rfl, keyText, ends⟩ := take_key_found _ key after isKey
    refine ⟨_, ?_, .dotted before _ key keyText ends⟩
    simp [accessMark]
  next bracketed =>
    obtain ⟨⟨key, after⟩, isKey, same⟩ := Option.map_eq_some_iff.mp found
    obtain ⟨rfl, rfl⟩ := Prod.mk.inj same
    obtain ⟨gap, opening, closing, space, rfl, keyText, gapBlank, spaceBlank, opens, closes⟩ :=
      take_bracketed_found _ key after isKey
    refine ⟨_, ?_, .bracketed before _ key gap space opening closing keyText gapBlank spaceBlank
      opens closes⟩
    simp [accessMark]
  next => exact absurd found (by simp)

theorem search_finds (before : Option Char) (piece remaining : List Char)
    (access : EnvironmentAccess)
    (reading : EnvironmentReading before piece remaining.head? access) :
    search before (piece ++ remaining) = some (access, remaining) := by
  have marked : ∀ rest, accessMark.toList.isPrefixOf ("process.env".toList ++ rest) = true ∧
      ("process.env".toList ++ rest).drop accessMark.length = rest := by
    intro rest
    refine ⟨List.isPrefixOf_iff_prefix.mpr (List.prefix_append _ _), ?_⟩
    rw [← String.length_toList]
    exact List.drop_left
  cases reading with
  | dotted _ _ key isKey ends =>
      rw [search, List.append_assoc, if_pos (marked _).1, (marked _).2, List.cons_append]
      simp only [take_key_finds key remaining isKey ends, Option.map_some]
  | bracketed _ _ key gap space opening closing isKey gapBlank spaceBlank opens closes =>
      have taken := take_bracketed_finds key remaining gap space opening closing isKey gapBlank
        spaceBlank opens closes
      simp only [List.append_assoc, List.cons_append, List.nil_append]
      rw [search, if_pos (marked _).1, (marked _).2]
      simp only [taken, Option.map_some]

theorem search_follows : search.Follows EnvironmentReading where
  found := fun before text access remaining => search_found before text remaining access
  finds := search_finds
  notEmpty := by
    intro before piece after access reading
    cases reading <;> simp

theorem key_of_reading (before after : Option Char) (piece : List Char)
    (access : EnvironmentAccess) (reading : EnvironmentReading before piece after access) :
    IsKeyText access.key := by
  cases reading with
  | dotted _ _ key isKey => exact isKey
  | bracketed _ _ key _ _ _ _ isKey => exact isKey

/-- Every name that a text reads is the text of a key. -/
theorem scanned_keys (text : List Char) :
    ∀ key ∈ scan text, ∃ characters, String.ofList characters = key ∧ IsKeyText characters := by
  obtain ⟨accesses, leftmost, values⟩ :=
    scan_with_values search EnvironmentReading search_follows text
  have stand := leftmost_stand EnvironmentReading text 0 accesses ((leftmost accesses).mpr rfl)
  intro key member
  rw [scan, scan_from_eq 0 none text, values, List.map_map] at member
  obtain ⟨access, isAccess, same⟩ := List.mem_map.mp member
  obtain ⟨before, piece, after, -, -, -, reading⟩ := stand access isAccess
  exact ⟨access.value.key, same, key_of_reading _ _ piece _ reading⟩

/-- The letter that an access starts with stands nowhere else in it. -/
theorem reading_start (before after : Option Char) (piece : List Char)
    (access : EnvironmentAccess) (reading : EnvironmentReading before piece after access) :
    ∃ rest, piece = 'p' :: rest ∧ 'p' ∉ rest := by
  have notIn : ∀ (allowed : Char → Bool) (part : List Char), allowed 'p' = false →
      (∀ character ∈ part, allowed character = true) → 'p' ∉ part := by
    intro allowed part refused inPart member
    rw [inPart 'p' member] at refused
    exact absurd refused (by simp)
  cases reading with
  | dotted _ _ key isKey ends =>
      refine ⟨"rocess.env".toList ++ '.' :: key, rfl, ?_⟩
      have notInKey := notIn isKeyCharacter key (by decide) isKey.allowed
      simpa using notInKey
  | bracketed _ _ key gap space opening closing isKey gapBlank spaceBlank opens closes =>
      refine ⟨"rocess.env".toList ++ '[' :: gap ++ opening :: key ++ closing :: space ++ [']'],
        rfl, ?_⟩
      have notInKey := notIn isKeyCharacter key (by decide) isKey.allowed
      have notInGap := notIn isBlank gap (by decide) gapBlank
      have notInSpace := notIn isBlank space (by decide) spaceBlank
      have notQuote : ∀ quote, Route.isQuote quote = true → 'p' ≠ quote := by
        rintro quote isQuote rfl
        exact absurd isQuote (by decide)
      simp [notInKey, notInGap, notInSpace, notQuote opening opens, notQuote closing closes]

theorem readings_apart (text : List Char) (passage other : Passage EnvironmentAccess)
    (stands : passage.StandsIn EnvironmentReading text)
    (otherStands : other.StandsIn EnvironmentReading text)
    (above : passage.start < other.start) : passage.stop ≤ other.start := by
  obtain ⟨before, piece, after, cut, start, stop, reading⟩ := stands
  obtain ⟨front, part, rest, otherCut, otherStart, -, otherReading⟩ := otherStands
  obtain ⟨inner, rfl, absent⟩ := reading_start _ _ piece _ reading
  obtain ⟨more, rfl, -⟩ := reading_start _ _ part _ otherReading
  rw [start, otherStart] at above
  rw [stop, otherStart]
  refine Nat.le_of_not_lt fun within => ?_
  -- The first letter of the other access would stand inside this one.
  have letter : text[front.length]? = some 'p' := by
    rw [otherCut, List.getElem?_append_right (Nat.le_refl _)]
    simp
  obtain ⟨offset, further⟩ := Nat.exists_eq_add_of_lt above
  have place : offset < inner.length := by
    simp only [List.length_cons] at within
    omega
  have inside : text[front.length]? = inner[offset]? := by
    rw [cut, List.getElem?_append_right (Nat.le_of_lt above),
      show front.length - before.length = offset + 1 by omega, List.cons_append,
      List.getElem?_cons_succ, List.getElem?_append_left place]
  rw [inside] at letter
  exact absent (List.mem_of_getElem? letter)

/-- Letters, digits, the low line and the dollar sign make up names. -/
def isNameCharacter (character : Char) : Bool :=
  character.isAlphanum || character == '_' || character == '$'

theorem name_character_cases (character : Char) :
    isNameCharacter character =
      (isKeyCharacter character || character.isLower || character == '$') := by
  have capital : (decide ('A' ≤ character) && decide (character ≤ 'Z')) = character.isUpper :=
    (Bool.decide_and ('A' ≤ character) (character ≤ 'Z')).symm
  have digit : (decide ('0' ≤ character) && decide (character ≤ '9')) = character.isDigit := rfl
  have alphanumeric : character.isAlphanum =
      (character.isUpper || character.isLower || character.isDigit) := rfl
  rw [isNameCharacter, isKeyCharacter, capital, digit, alphanumeric]
  cases character.isUpper <;> cases character.isLower <;> cases character.isDigit <;> simp

theorem small_is_no_key_character (character : Char)
    (small : character.isLower = true ∨ character = '$') : isKeyCharacter character = false := by
  rcases small with lower | rfl
  · rw [← Bool.not_eq_true]
    intro isKey
    change (decide ('a' ≤ character) && decide (character ≤ 'z')) = true at lower
    simp only [isKeyCharacter, Bool.or_eq_true, Bool.and_eq_true, decide_eq_true_eq,
      beq_iff_eq, Char.le_def, UInt32.le_iff_toNat_le] at lower isKey
    rcases isKey with (capital | digit) | rfl
    · have := Nat.le_trans lower.1 capital.2
      exact absurd this (by decide)
    · have := Nat.le_trans lower.1 digit.2
      exact absurd this (by decide)
    · exact absurd lower (by decide)
  · decide

/-- No key that a text reads after a dot is followed by one more character of a name. -/
def KeysAreWhole (text : List Char) : Prop :=
  ∀ accesses, Leftmost EnvironmentReading text 0 accesses →
    ∀ access ∈ accesses, ∀ key, access.value = .afterDot key →
      ∀ next, text[access.stop]? = some next → isNameCharacter next = false

theorem dotted_passage (front back key : List Char) (next : Char) (isKey : IsKeyText key)
    (ends : isKeyCharacter next = false) :
    Passage.StandsIn EnvironmentReading
      (front ++ ("process.env".toList ++ '.' :: key ++ next :: back))
      { start := front.length
        stop := front.length + ("process.env".toList ++ '.' :: key).length
        value := .afterDot key } := by
  refine ⟨front, _, next :: back, rfl, rfl, rfl, .dotted _ _ key isKey ?_⟩
  intro character first
  cases first
  exact ends

/-- What the text of a key read after a dot is, and what follows it. -/
theorem text_of_dotted (text : List Char) (access : Passage EnvironmentAccess) (key : List Char)
    (stands : access.StandsIn EnvironmentReading text) (dotted : access.value = .afterDot key)
    (next : Char) (follows : text[access.stop]? = some next) :
    IsKeyText key ∧ isKeyCharacter next = false ∧
      "process.env".toList ++ '.' :: key ++ [next] <:+: text := by
  obtain ⟨before, piece, after, rfl, -, stop, reading⟩ := stands
  rw [dotted] at reading
  cases reading with
  | dotted _ _ key isKey ends =>
      rw [stop, ← List.length_append, ← List.append_assoc,
        List.getElem?_append_right (Nat.le_refl _), Nat.sub_self, ← List.head?_eq_getElem?]
        at follows
      obtain ⟨back, rfl⟩ := List.head?_eq_some_iff.mp follows
      refine ⟨isKey, ends next follows, before, back, ?_⟩
      simp

/-- The keys of a text are those of its accesses, none of which is passed over. All keys that are
read after a dot are whole names exactly when the text nowhere reads a key after a dot with a
small letter or a dollar sign right behind it. -/
theorem dotted_keys_whole_iff (text : List Char) :
    (∃ accesses, (∀ others, Leftmost EnvironmentReading text 0 others ↔ others = accesses) ∧
      (∀ access : Passage EnvironmentAccess,
        access ∈ accesses ↔ access.StandsIn EnvironmentReading text) ∧
      scan text = accesses.map fun access => String.ofList access.value.key) ∧
    (KeysAreWhole text ↔
      ∀ key next, IsKeyText key → (next.isLower = true ∨ next = '$') →
        ¬ "process.env".toList ++ '.' :: key ++ [next] <:+: text) := by
  have determined := passage_determined search EnvironmentReading search_follows text
  obtain ⟨accesses, leftmost, values⟩ :=
    scan_with_values search EnvironmentReading search_follows text
  have isLeftmost := (leftmost accesses).mpr rfl
  have all : ∀ access : Passage EnvironmentAccess,
      access ∈ accesses ↔ access.StandsIn EnvironmentReading text := by
    intro access
    constructor
    · exact leftmost_stand EnvironmentReading text 0 accesses isLeftmost access
    · intro stands
      exact mem_leftmost EnvironmentReading text (readings_apart text) determined 0 accesses
        isLeftmost access stands (Nat.zero_le _)
  have scanned : scan text = accesses.map fun access => String.ofList access.value.key := by
    rw [scan, scan_from_eq 0 none text, values, List.map_map]
    rfl
  refine ⟨⟨accesses, leftmost, all, scanned⟩, ?_, ?_⟩
  · rintro whole key next isKey small ⟨front, back, cut⟩
    rw [List.append_assoc, List.append_assoc _ [next], List.singleton_append] at cut
    have ends := small_is_no_key_character next small
    have stands := dotted_passage front back key next isKey ends
    rw [cut, ← all] at stands
    have follows : text[front.length + ("process.env".toList ++ '.' :: key).length]? =
        some next := by
      rw [← cut, ← List.length_append, ← List.append_assoc,
        List.getElem?_append_right (Nat.le_refl _)]
      simp
    have whole := whole accesses isLeftmost _ stands key rfl next follows
    rw [name_character_cases] at whole
    rcases small with lower | rfl
    · simp [lower] at whole
    · simp at whole
  · intro nowhere others otherLeftmost access member key dotted next follows
    have stands := leftmost_stand EnvironmentReading text 0 others otherLeftmost access member
    obtain ⟨isKey, ends, occurs⟩ := text_of_dotted text access key stands dotted next follows
    rw [name_character_cases, ends, Bool.false_or, Bool.or_eq_false_iff]
    constructor
    · rw [← Bool.not_eq_true]
      exact fun lower => nowhere key next isKey (Or.inl lower) occurs
    · rw [beq_eq_false_iff_ne]
      exact fun dollar => nowhere key next isKey (Or.inr dollar) occurs

/-- The key `FOO` is taken off the front of a name of mixed case. -/
theorem mixed_name_is_cut :
    scan "process.env.FOObar".toList = ["FOO"] ∧
      ¬ KeysAreWhole "process.env.FOObar".toList := by
  refine ⟨by decide, fun whole => ?_⟩
  obtain ⟨accesses, leftmost, -⟩ :=
    scan_with_values search EnvironmentReading search_follows "process.env.FOObar".toList
  have isLeftmost := (leftmost accesses).mpr rfl
  have isKey : IsKeyText "FOO".toList := ⟨by decide, List.all_eq_true.mp (by decide)⟩
  have stands := dotted_passage [] "ar".toList "FOO".toList 'b' isKey (by decide)
  have member := mem_leftmost EnvironmentReading _ (readings_apart _)
    (passage_determined search EnvironmentReading search_follows _) 0 accesses isLeftmost _ stands
    (Nat.zero_le _)
  exact absurd (whole accesses isLeftmost _ member "FOO".toList rfl 'b' rfl) (by decide)

end EnvironmentKey

end ReadmePress
