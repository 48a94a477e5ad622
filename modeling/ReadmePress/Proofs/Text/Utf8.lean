import ReadmePress.Text.Utf8

/-!
UTF-8 both ways: the bytes of a text are those of the character set's own encoding, and reading
them gives back the text. A character is taken apart into groups of six bits and put together
again, one case for each number of bytes.
-/

namespace ReadmePress.Text

theorem byte_to_nat (value : Nat) (bound : value < 256) : value.toUInt8.toNat = value := by
  simpa using Nat.mod_eq_of_lt bound

theorem tail_byte (low : Nat) (bound : low < 0x40) :
    isTail (0x80 + low).toUInt8 = true ∧ tailBits (0x80 + low).toUInt8 = low := by
  have asNat := byte_to_nat (0x80 + low) (by omega)
  constructor
  · simp only [isTail, Bool.and_eq_true, decide_eq_true_eq, UInt8.le_iff_toNat_le, asNat,
      UInt8.reduceToNat]
    omega
  · unfold tailBits
    omega

theorem decode_one_byte (position code : Nat) (rest : List UInt8) (bound : code < 0x80) :
    decodeUtf8From position (code.toUInt8 :: rest) =
      (decodeUtf8From (position + 1) rest).map (Char.ofNat code :: ·) := by
  have asNat := byte_to_nat code (by omega)
  have isOne : code.toUInt8 < 0x80 := by
    rw [UInt8.lt_iff_toNat_lt, asNat]
    exact bound
  conv => lhs; unfold decodeUtf8From
  simp only [if_pos isOne, asNat]

theorem decode_two_bytes (position high low : Nat) (rest : List UInt8)
    (least : 2 ≤ high) (highBound : high < 0x20) (lowBound : low < 0x40) :
    decodeUtf8From position ((0xc0 + high).toUInt8 :: (0x80 + low).toUInt8 :: rest) =
      (decodeUtf8From (position + 2) rest).map (Char.ofNat (high * 0x40 + low) :: ·) := by
  have first := byte_to_nat (0xc0 + high) (by omega)
  obtain ⟨secondIsTail, secondBits⟩ := tail_byte low lowBound
  conv => lhs; unfold decodeUtf8From
  simp only [UInt8.lt_iff_toNat_lt, first, secondIsTail, secondBits, UInt8.reduceToNat,
    Bool.or_eq_true, decide_eq_true_eq, if_true, Nat.add_sub_cancel_left]
  rw [if_neg (by omega), if_neg (by omega), if_pos (by omega)]

/-- The second byte of three is no overlong form and no surrogate. -/
theorem second_of_three (high middle : Nat) (highBound : high < 0x10) (middleBound : middle < 0x40)
    (least : 0x800 ≤ high * 0x1000 + middle * 0x40 + 0x3f)
    (noSurrogate : high * 0x40 + middle < 0x360 ∨ 0x37f < high * 0x40 + middle) :
    admitsSecond (0xe0 + high).toUInt8 (0x80 + middle).toUInt8 = true := by
  have first := byte_to_nat (0xe0 + high) (by omega)
  have second := byte_to_nat (0x80 + middle) (by omega)
  simp only [admitsSecond, isTail, ← UInt8.toNat_inj, UInt8.le_iff_toNat_le, first, second,
    UInt8.reduceToNat]
  split
  · simp only [Bool.and_eq_true, decide_eq_true_eq]
    omega
  · split
    · simp only [Bool.and_eq_true, decide_eq_true_eq]
      omega
    · rw [if_neg (by omega), if_neg (by omega)]
      simp only [Bool.and_eq_true, decide_eq_true_eq]
      omega

theorem decode_three_bytes (position high middle low : Nat) (rest : List UInt8)
    (highBound : high < 0x10) (middleBound : middle < 0x40) (lowBound : low < 0x40)
    (admitted : admitsSecond (0xe0 + high).toUInt8 (0x80 + middle).toUInt8 = true) :
    decodeUtf8From position
        ((0xe0 + high).toUInt8 :: (0x80 + middle).toUInt8 :: (0x80 + low).toUInt8 :: rest) =
      (decodeUtf8From (position + 3) rest).map
        (Char.ofNat (high * 0x1000 + middle * 0x40 + low) :: ·) := by
  have first := byte_to_nat (0xe0 + high) (by omega)
  obtain ⟨_, secondBits⟩ := tail_byte middle middleBound
  obtain ⟨thirdIsTail, thirdBits⟩ := tail_byte low lowBound
  conv => lhs; unfold decodeUtf8From
  simp only [UInt8.lt_iff_toNat_lt, first, admitted, secondBits, thirdIsTail, thirdBits,
    UInt8.reduceToNat, Bool.or_eq_true, decide_eq_true_eq, Bool.not_true, Bool.false_eq_true,
    if_false, Nat.add_sub_cancel_left]
  rw [if_neg (by omega), if_neg (by omega), if_neg (by omega), if_pos (by omega)]

/-- The second byte of four is no overlong form and keeps below the last code point. -/
theorem second_of_four (high middle : Nat) (highBound : high < 5) (middleBound : middle < 0x40)
    (least : 0x10 ≤ high * 0x40 + middle) (greatest : high * 0x40 + middle < 0x110) :
    admitsSecond (0xf0 + high).toUInt8 (0x80 + middle).toUInt8 = true := by
  have first := byte_to_nat (0xf0 + high) (by omega)
  have second := byte_to_nat (0x80 + middle) (by omega)
  simp only [admitsSecond, isTail, ← UInt8.toNat_inj, UInt8.le_iff_toNat_le, first, second,
    UInt8.reduceToNat]
  rw [if_neg (by omega), if_neg (by omega)]
  split
  · simp only [Bool.and_eq_true, decide_eq_true_eq]
    omega
  · split
    · simp only [Bool.and_eq_true, decide_eq_true_eq]
      omega
    · simp only [Bool.and_eq_true, decide_eq_true_eq]
      omega

theorem decode_four_bytes (position high upper lower low : Nat) (rest : List UInt8)
    (highBound : high < 5) (upperBound : upper < 0x40) (lowerBound : lower < 0x40)
    (lowBound : low < 0x40)
    (admitted : admitsSecond (0xf0 + high).toUInt8 (0x80 + upper).toUInt8 = true) :
    decodeUtf8From position
        ((0xf0 + high).toUInt8 :: (0x80 + upper).toUInt8 :: (0x80 + lower).toUInt8
          :: (0x80 + low).toUInt8 :: rest) =
      (decodeUtf8From (position + 4) rest).map
        (Char.ofNat (high * 0x40000 + upper * 0x1000 + lower * 0x40 + low) :: ·) := by
  have first := byte_to_nat (0xf0 + high) (by omega)
  obtain ⟨_, secondBits⟩ := tail_byte upper upperBound
  obtain ⟨thirdIsTail, thirdBits⟩ := tail_byte lower lowerBound
  obtain ⟨fourthIsTail, fourthBits⟩ := tail_byte low lowBound
  conv => lhs; unfold decodeUtf8From
  simp only [UInt8.lt_iff_toNat_lt, first, admitted, secondBits, thirdIsTail, thirdBits,
    fourthIsTail, fourthBits, UInt8.reduceToNat, Bool.or_eq_true, decide_eq_true_eq,
    Bool.not_true, Bool.false_eq_true, if_false, Nat.add_sub_cancel_left]
  rw [if_neg (by omega), if_neg (by omega), if_neg (by omega), if_neg (by omega)]

theorem decode_character (position : Nat) (character : Char) (rest : List UInt8) :
    decodeUtf8From position (utf8Bytes character ++ rest) =
      (decodeUtf8From (position + (utf8Bytes character).length) rest).map (character :: ·) := by
  have valid : character.toNat < 0xd800 ∨
      0xdfff < character.toNat ∧ character.toNat < 0x110000 := character.valid
  have whole : Char.ofNat character.toNat = character := Char.ofNat_toNat character
  generalize codeOf : character.toNat = code at valid whole
  simp only [utf8Bytes, codeOf]
  split
  next isOne =>
    rw [← whole]
    exact decode_one_byte position code rest isOne
  next notOne =>
    split
    next isTwo =>
      have parts : code / 0x40 * 0x40 + code % 0x40 = code := by omega
      have decoded := decode_two_bytes position (code / 0x40) (code % 0x40) rest
        (by omega) (by omega) (by omega)
      rw [parts, whole] at decoded
      exact decoded
    next notTwo =>
      split
      next isThree =>
        have parts : code / 0x1000 * 0x1000 + code / 0x40 % 0x40 * 0x40 + code % 0x40 = code := by
          omega
        have admitted := second_of_three (code / 0x1000) (code / 0x40 % 0x40)
          (by omega) (by omega) (by omega) (by omega)
        have decoded := decode_three_bytes position (code / 0x1000) (code / 0x40 % 0x40)
          (code % 0x40) rest (by omega) (by omega) (by omega) admitted
        rw [parts, whole] at decoded
        exact decoded
      next notThree =>
        have parts : code / 0x40000 * 0x40000 + code / 0x1000 % 0x40 * 0x1000
            + code / 0x40 % 0x40 * 0x40 + code % 0x40 = code := by omega
        have admitted := second_of_four (code / 0x40000) (code / 0x1000 % 0x40)
          (by omega) (by omega) (by omega) (by omega)
        have decoded := decode_four_bytes position (code / 0x40000) (code / 0x1000 % 0x40)
          (code / 0x40 % 0x40) (code % 0x40) rest (by omega) (by omega) (by omega) (by omega)
          admitted
        rw [parts, whole] at decoded
        exact decoded

theorem decode_from_encode (position : Nat) (text : List Char) :
    decodeUtf8From position (encodeUtf8 text) = .ok text := by
  induction text generalizing position with
  | nil => rfl
  | cons character rest induction =>
      rw [encodeUtf8, List.flatMap_cons, decode_character]
      rw [encodeUtf8] at induction
      rw [induction]
      rfl

/-- Reading the bytes of a text gives back the text. -/
theorem decode_encode (text : List Char) : decodeUtf8 (encodeUtf8 text) = .ok text :=
  decode_from_encode 0 text

theorem utf8_bytes_eq (character : Char) :
    utf8Bytes character = String.utf8EncodeChar character := by
  have bound : character.toNat < 0x110000 := by
    have valid : character.toNat < 0xd800 ∨
        0xdfff < character.toNat ∧ character.toNat < 0x110000 := character.valid
    omega
  have same : character.val.toNat = character.toNat := rfl
  unfold utf8Bytes String.utf8EncodeChar
  rw [same]
  generalize character.toNat = code at bound
  by_cases isOne : code < 0x80
  · have isOneToo : code ≤ 0x7f := by omega
    simp only [if_pos isOne, if_pos isOneToo, Nat.toUInt8]
  have notOne : ¬code ≤ 0x7f := by omega
  by_cases isTwo : code < 0x800
  · have isTwoToo : code ≤ 0x7ff := by omega
    have high : code / 64 % 0x20 + 0xc0 = 0xc0 + code / 0x40 := by omega
    simp only [if_neg isOne, if_neg notOne, if_pos isTwo, if_pos isTwoToo, Nat.toUInt8, high,
      Nat.add_comm _ 0x80]
  have notTwo : ¬code ≤ 0x7ff := by omega
  by_cases isThree : code < 0x10000
  · have isThreeToo : code ≤ 0xffff := by omega
    have high : code / 4096 % 0x10 + 0xe0 = 0xe0 + code / 0x1000 := by omega
    simp only [if_neg isOne, if_neg notOne, if_neg isTwo, if_neg notTwo, if_pos isThree,
      if_pos isThreeToo, Nat.toUInt8, high, Nat.add_comm _ 0x80]
  · have notThree : ¬code ≤ 0xffff := by omega
    have high : code / 262144 % 0x08 + 0xf0 = 0xf0 + code / 0x40000 := by omega
    simp only [if_neg isOne, if_neg notOne, if_neg isTwo, if_neg notTwo, if_neg isThree,
      if_neg notThree, Nat.toUInt8, high, Nat.add_comm _ 0x80]

/-- The bytes of a text are those that the text is stored as. -/
theorem encode_eq_bytes (text : String) : encodeUtf8 text.toList = text.toUTF8.data.toList := by
  have sameBytes : utf8Bytes = String.utf8EncodeChar := funext utf8_bytes_eq
  rw [encodeUtf8, sameBytes, String.toUTF8_eq_toByteArray, ← String.utf8Encode_toList,
    List.utf8Encode, List.data_toByteArray]

end ReadmePress.Text
