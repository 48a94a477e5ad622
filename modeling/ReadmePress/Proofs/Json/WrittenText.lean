import ReadmePress.Json.Parser
import ReadmePress.Json.Printer

/-!
Texts in JSON are read as they were written. Every character is written as itself or as an escape
that stands for it, and what is written keeps its characters on the way through a file: it holds
neither surrogates nor carriage returns.
-/

namespace ReadmePress

open ReadmePress.Text

namespace Text

/-- A code point that a file gives back as it was written. -/
def CodePoint.isStorable : CodePoint → Bool
  | .scalar character => character != '\r'
  | .surrogate _ => false

/-- The characters of a text, the surrogates left out. -/
def WideText.characters (text : WideText) : List Char := text.filterMap CodePoint.toChar?

@[simp]
theorem characters_nil : WideText.characters [] = [] := rfl

@[simp]
theorem characters_cons (character : Char) (rest : WideText) :
    WideText.characters (.scalar character :: rest) = character :: WideText.characters rest := rfl

@[simp]
theorem characters_append (first second : WideText) :
    WideText.characters (first ++ second) =
      WideText.characters first ++ WideText.characters second :=
  List.filterMap_append

@[simp]
theorem characters_of_chars (text : List Char) :
    WideText.characters (WideText.ofChars text) = text := by
  induction text with
  | nil => rfl
  | cons character rest induction => exact congrArg (character :: ·) induction

theorem storable_of_chars (text : List Char) :
    (WideText.ofChars text).all CodePoint.isStorable = text.all (· != '\r') := by
  rw [WideText.ofChars, List.all_map]
  rfl

/-- A text that can be stored is the text of its characters, and no carriage return is one. -/
theorem storable_text (text : WideText) (storable : text.all CodePoint.isStorable = true) :
    text = WideText.ofChars text.characters ∧ '\r' ∉ text.characters := by
  induction text with
  | nil => exact ⟨rfl, List.not_mem_nil⟩
  | cons point rest induction =>
      obtain ⟨here, later⟩ := Bool.and_eq_true_iff.mp storable
      obtain ⟨same, noReturn⟩ := induction later
      cases point with
      | surrogate offset => exact absurd here Bool.false_ne_true
      | scalar character =>
          refine ⟨congrArg (CodePoint.scalar character :: ·) same, ?_⟩
          rw [characters_cons, List.mem_cons, not_or]
          exact ⟨Ne.symm (by simpa [CodePoint.isStorable] using here), noReturn⟩

end Text

namespace Json

theorem hex_digit_storable : ∀ value < 16, (hexDigit value != '\r') = true := by
  decide

/-- Four digits of a number give it back. -/
theorem four_digits (code : Nat) (small : code < 0x20) :
    hexDigits 4 code = ['0', '0', hexDigit (code / 16), hexDigit (code % 16)] ∧
      fourDigits? '0' '0' (hexDigit (code / 16)) (hexDigit (code % 16)) = some code := by
  revert code
  decide

/-- What a character is written as. -/
theorem escaped_cases (character : Char) :
    (∃ letter, escaped (.scalar character) = WideText.ofChars ['\\', letter] ∧ letter ≠ 'u' ∧
        letter ≠ '\r' ∧ simpleEscape? letter = some character) ∨
      (character.toNat < 0x20 ∧ escaped (.scalar character) =
        WideText.ofChars ('\\' :: 'u' :: hexDigits 4 character.toNat)) ∨
      (character ≠ '"' ∧ character ≠ '\\' ∧ ¬ character.toNat < 0x20 ∧
        escaped (.scalar character) = WideText.ofChars [character]) := by
  rw [escaped]
  split
  next same => exact Or.inl ⟨'"', rfl, by decide, by decide, by rw [same]; rfl⟩
  split
  next same => exact Or.inl ⟨'\\', rfl, by decide, by decide, by rw [same]; rfl⟩
  split
  next same => exact Or.inl ⟨'n', rfl, by decide, by decide, by rw [same]; rfl⟩
  split
  next same => exact Or.inl ⟨'r', rfl, by decide, by decide, by rw [same]; rfl⟩
  split
  next same => exact Or.inl ⟨'t', rfl, by decide, by decide, by rw [same]; rfl⟩
  split
  next same => exact Or.inl ⟨'b', rfl, by decide, by decide, by rw [same]; rfl⟩
  split
  next same => exact Or.inl ⟨'f', rfl, by decide, by decide, by rw [same]; rfl⟩
  split
  next control => exact Or.inr (Or.inl ⟨control, rfl⟩)
  next noQuote noSlash _ _ _ _ _ printable =>
    exact Or.inr (Or.inr ⟨noQuote, noSlash, printable, rfl⟩)

theorem escaped_storable (character : Char) :
    (escaped (.scalar character)).all CodePoint.isStorable = true := by
  rcases escaped_cases character with
    ⟨letter, written, -, noReturn, -⟩ | ⟨control, written⟩ | ⟨-, -, printable, written⟩
  · rw [written, storable_of_chars]
    simp [noReturn]
  · rw [written, storable_of_chars, (four_digits _ control).1]
    simp [hex_digit_storable _ (Nat.mod_lt character.toNat (by decide : 0 < 16)),
      hex_digit_storable (character.toNat / 16) (by omega)]
  · rw [written, storable_of_chars]
    have noReturn : character ≠ '\r' := by
      rintro rfl
      exact printable (by decide)
    simp [noReturn]

/-- What a character is written as is read as that character, if anything follows. -/
theorem read_escaped (opened : Nat) (character next : Char) (rest : List Char) :
    readPiece opened ((escaped (.scalar character)).characters ++ next :: rest) =
      .ok (.point (.scalar character), next :: rest) := by
  rcases escaped_cases character with
    ⟨letter, written, noNumber, -, known⟩ | ⟨control, written⟩ |
      ⟨noQuote, noSlash, printable, written⟩
  · rw [written, characters_of_chars]
    simp only [List.cons_append, List.nil_append]
    rw [readPiece]
    · rw [known]
    · rintro rfl
      exact noNumber rfl
  · obtain ⟨digits, value⟩ := four_digits _ control
    have noSurrogate : ¬ 0xd800 ≤ character.toNat := by omega
    have unit : codeUnit character.toNat = .scalar character := by
      rw [codeUnit, CodePoint.ofNat?, if_neg (by simp [noSurrogate]), if_pos (by omega),
        Char.ofNat_toNat]
      rfl
    rw [written, characters_of_chars, digits]
    simp only [List.cons_append, List.nil_append]
    rw [readPiece, readUnicodeEscape, value]
    simp only [noSurrogate, decide_false, Bool.false_and, Bool.false_eq_true, if_false, unit]
    rfl
  · rw [written, characters_of_chars]
    simp only [List.cons_append, List.nil_append]
    rw [readPiece]
    · rw [if_neg printable]
    all_goals simp_all

theorem escaped_not_empty (character : Char) :
    1 ≤ (escaped (.scalar character)).characters.length := by
  rcases escaped_cases character with ⟨letter, written, -⟩ | ⟨-, written⟩ | ⟨-, -, -, written⟩
  all_goals simp [written]

/-- A text up to its closing mark, where no surrogate is in it. -/
theorem read_pieces (opened fuel : Nat) (text rest : List Char) (enough : text.length < fuel) :
    readPieces opened fuel
        (WideText.characters ((WideText.ofChars text).flatMap escaped) ++ '"' :: rest) =
      .ok (WideText.ofChars text, rest) := by
  induction text generalizing fuel with
  | nil =>
      obtain ⟨less, rfl⟩ : ∃ less, fuel = less + 1 := ⟨fuel - 1, by omega⟩
      rfl
  | cons character more induction =>
      obtain ⟨less, rfl⟩ : ∃ less, fuel = less + 1 := ⟨fuel - 1, by omega⟩
      have later := induction less (by simpa using enough)
      obtain ⟨next, others, ends⟩ : ∃ next others,
          WideText.characters ((WideText.ofChars more).flatMap escaped) ++ '"' :: rest =
            next :: others := by
        cases WideText.characters ((WideText.ofChars more).flatMap escaped) with
        | nil => exact ⟨_, _, rfl⟩
        | cons next others => exact ⟨_, _, rfl⟩
      have written : WideText.characters
          ((WideText.ofChars (character :: more)).flatMap escaped) ++ '"' :: rest =
            (escaped (.scalar character)).characters ++ next :: others := by
        rw [← ends]
        simp [WideText.ofChars]
      rw [written, readPieces, read_escaped]
      simp only [bind, Except.bind]
      rw [← ends, later]
      rfl

theorem escaped_length (text : List Char) :
    text.length ≤
      (WideText.characters ((WideText.ofChars text).flatMap escaped)).length := by
  induction text with
  | nil => exact Nat.zero_le _
  | cons character more induction =>
      have here := escaped_not_empty character
      simp only [WideText.ofChars, List.map_cons, List.flatMap_cons, characters_append,
        List.length_append, List.length_cons] at induction ⊢
      omega

/-- A written text is read as it was, whatever follows it. -/
theorem read_written_text (text rest : List Char) :
    readText (WideText.characters ((WideText.ofChars text).flatMap escaped) ++ '"' :: rest) =
      .ok (WideText.ofChars text, rest) := by
  apply read_pieces
  have length := escaped_length text
  simp only [List.length_append]
  omega

theorem written_text_characters (text : WideText) :
    (writeText text).characters = '"' :: (WideText.characters (text.flatMap escaped) ++ ['"']) := by
  rw [writeText, characters_cons, characters_append]
  rfl

theorem written_text_storable (text : List Char) :
    (writeText (WideText.ofChars text)).all CodePoint.isStorable = true := by
  have inside : ((WideText.ofChars text).flatMap escaped).all CodePoint.isStorable = true := by
    rw [WideText.ofChars, List.flatMap_map, List.all_flatMap, List.all_eq_true]
    intro character _
    exact escaped_storable character
  rw [writeText, List.all_cons, List.all_append, inside]
  rfl

end Json

end ReadmePress
