import ReadmePress.Text.Utf8

/-!
Percent-encoding of one component of an address: every byte outside a small set of ASCII
characters is written as a percent sign and two upper-case hexadecimal digits.
-/

namespace ReadmePress.Text

/-- The digit of a number below sixteen, in upper case. -/
def upperHexDigit (value : Nat) : Char :=
  if value < 10 then Char.ofNat (48 + value) else Char.ofNat (55 + value)

/-- The value of a hexadecimal digit in either case. -/
def hexValue? (character : Char) : Option Nat :=
  if '0' ≤ character && character ≤ '9' then some (character.toNat - 48)
  else if 'A' ≤ character && character ≤ 'F' then some (character.toNat - 55)
  else if 'a' ≤ character && character ≤ 'f' then some (character.toNat - 87)
  else none

/-- ASCII letters, digits and the nine marks that a component keeps as they are. -/
def isUnreserved (character : Char) : Bool :=
  character.isAlphanum || "-_.!~*'()".toList.contains character

/-- One byte as an escape. -/
def percentByte (byte : UInt8) : List Char :=
  ['%', upperHexDigit (byte.toNat / 16), upperHexDigit (byte.toNat % 16)]

/-- A text as a component. -/
def percentEncode (text : List Char) : List Char :=
  text.flatMap fun character =>
    if isUnreserved character then [character]
    else (utf8Bytes character).flatMap percentByte

/-- The bytes that a percent-encoded text stands for. A percent sign that no two digits follow
stands for itself. -/
def percentBytes : List Char → List UInt8
  | [] => []
  | '%' :: high :: low :: rest =>
      match hexValue? high, hexValue? low with
      | some highValue, some lowValue =>
          (highValue * 16 + lowValue).toUInt8 :: percentBytes rest
      | _, _ => 0x25 :: percentBytes (high :: low :: rest)
  | character :: rest => utf8Bytes character ++ percentBytes rest

/-- The text of a component, if its bytes are UTF-8. -/
def percentDecode? (component : List Char) : Option (List Char) :=
  (decodeUtf8 (percentBytes component)).toOption

end ReadmePress.Text
