import ReadmePress.Proofs.Text.Utf8
import ReadmePress.Text.Percent

/-!
Percent-encoding both ways. An encoded text is made of characters that stand for themselves and
of escapes, and decoding it gives back the text it was made from, whatever percent signs the text
holds itself.
-/

namespace ReadmePress.Text

/-- ASCII letters and digits and the nine marks. -/
def IsKeptCharacter (character : Char) : Prop :=
  ('a' ≤ character ∧ character ≤ 'z') ∨ ('A' ≤ character ∧ character ≤ 'Z') ∨
    ('0' ≤ character ∧ character ≤ '9') ∨ character ∈ "-_.!~*'()".toList

/-- Texts of kept characters and of escapes, whose digits are in upper case. -/
inductive IsAddressPart : List Char → Prop where
  | nothing : IsAddressPart []
  | kept (character : Char) (rest : List Char) (isKept : IsKeptCharacter character)
      (more : IsAddressPart rest) : IsAddressPart (character :: rest)
  | escape (high low : Char) (rest : List Char) (highDigit : high ∈ "0123456789ABCDEF".toList)
      (lowDigit : low ∈ "0123456789ABCDEF".toList) (more : IsAddressPart rest) :
      IsAddressPart ('%' :: high :: low :: rest)

theorem hex_digit_value (value : Nat) (bound : value < 16) :
    hexValue? (upperHexDigit value) = some value ∧
      upperHexDigit value ∈ "0123456789ABCDEF".toList := by
  revert value
  decide

theorem of_range {character first last : Char}
    (between : (decide (first.val ≤ character.val) && decide (character.val ≤ last.val)) = true) :
    first ≤ character ∧ character ≤ last := by
  obtain ⟨above, below⟩ := Bool.and_eq_true_iff.mp between
  exact ⟨of_decide_eq_true above, of_decide_eq_true below⟩

theorem kept_of_unreserved (character : Char) (unreserved : isUnreserved character = true) :
    IsKeptCharacter character := by
  rcases Bool.or_eq_true_iff.mp unreserved with alphanumeric | mark
  · rcases Bool.or_eq_true_iff.mp alphanumeric with letter | digit
    · rcases Bool.or_eq_true_iff.mp letter with upper | lower
      · exact Or.inr (Or.inl (of_decide_eq_true upper))
      · exact Or.inl (of_range lower)
    · exact Or.inr (Or.inr (Or.inl (of_range digit)))
  · exact Or.inr (Or.inr (Or.inr (List.contains_iff_mem.mp mark)))

theorem address_part_append (first second : List Char) (isFirst : IsAddressPart first)
    (isSecond : IsAddressPart second) : IsAddressPart (first ++ second) := by
  induction isFirst with
  | nothing => exact isSecond
  | kept character rest isKept more induction => exact .kept character _ isKept induction
  | escape high low rest highDigit lowDigit more induction =>
      exact .escape high low _ highDigit lowDigit induction

theorem byte_is_address_part (byte : UInt8) : IsAddressPart (percentByte byte) := by
  have bound := byte.toNat_lt
  apply IsAddressPart.escape
  · exact (hex_digit_value (byte.toNat / 16) (by omega)).2
  · exact (hex_digit_value (byte.toNat % 16) (by omega)).2
  · exact .nothing

theorem bytes_are_address_part (bytes : List UInt8) :
    IsAddressPart (bytes.flatMap percentByte) := by
  induction bytes with
  | nil => exact .nothing
  | cons byte rest induction =>
      rw [List.flatMap_cons]
      exact address_part_append _ _ (byte_is_address_part byte) induction

theorem encoded_is_address_part (text : List Char) : IsAddressPart (percentEncode text) := by
  induction text with
  | nil => exact .nothing
  | cons character rest induction =>
      rw [percentEncode, List.flatMap_cons]
      apply address_part_append _ _ _ induction
      split
      next unreserved => exact .kept character [] (kept_of_unreserved character unreserved) .nothing
      next => exact bytes_are_address_part (utf8Bytes character)

theorem percent_bytes_of_byte (byte : UInt8) (rest : List Char) :
    percentBytes (percentByte byte ++ rest) = byte :: percentBytes rest := by
  have bound := byte.toNat_lt
  have whole : byte.toNat / 16 * 16 + byte.toNat % 16 = byte.toNat := by omega
  simp only [percentByte, List.cons_append, List.nil_append, percentBytes,
    (hex_digit_value (byte.toNat / 16) (by omega)).1,
    (hex_digit_value (byte.toNat % 16) (by omega)).1, whole]
  simp

theorem percent_bytes_of_bytes (bytes : List UInt8) (rest : List Char) :
    percentBytes (bytes.flatMap percentByte ++ rest) = bytes ++ percentBytes rest := by
  induction bytes with
  | nil => rfl
  | cons byte more induction =>
      rw [List.flatMap_cons, List.append_assoc, percent_bytes_of_byte, induction]
      rfl

theorem percent_bytes_of_kept (character : Char) (rest : List Char) (notPercent : character ≠ '%') :
    percentBytes (character :: rest) = utf8Bytes character ++ percentBytes rest := by
  rw [percentBytes]
  rintro high low more rfl
  exact absurd rfl notPercent

/-- The bytes that an encoded text stands for are those of the text. -/
theorem percent_bytes_of_encoded (text : List Char) :
    percentBytes (percentEncode text) = encodeUtf8 text := by
  induction text with
  | nil => rfl
  | cons character rest induction =>
      rw [percentEncode, List.flatMap_cons, encodeUtf8, List.flatMap_cons]
      rw [percentEncode, encodeUtf8] at induction
      split
      next unreserved =>
        have notPercent : character ≠ '%' := by
          rintro rfl
          exact absurd unreserved (by decide)
        rw [List.singleton_append, percent_bytes_of_kept character _ notPercent, induction]
      next => rw [percent_bytes_of_bytes, induction]

theorem percent_decode_encoded (text : List Char) :
    percentDecode? (percentEncode text) = some text := by
  rw [percentDecode?, percent_bytes_of_encoded, decode_encode]
  rfl

end ReadmePress.Text
