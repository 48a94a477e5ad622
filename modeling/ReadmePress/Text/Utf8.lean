/-!
UTF-8. Decoding is strict: overlong forms, surrogates and code points above U+10FFFF are
refused, and the refusal names the first byte sequence that no character can start with.
A byte order mark is an ordinary character.
-/

namespace ReadmePress.Text

/-- Why a byte sequence is not UTF-8. -/
inductive Utf8Fault where
  | invalidStart
  | invalidContinuation
  | unexpectedEnd
  deriving DecidableEq, Repr

/-- A refused byte sequence: its place, its first byte and the number of bytes it spans. -/
structure Utf8Error where
  position : Nat
  byte : UInt8
  width : Nat
  fault : Utf8Fault
  deriving DecidableEq, Repr

def utf8Bytes (character : Char) : List UInt8 :=
  let code := character.toNat
  if code < 0x80 then [code.toUInt8]
  else if code < 0x800 then
    [(0xc0 + code / 0x40).toUInt8, (0x80 + code % 0x40).toUInt8]
  else if code < 0x10000 then
    [(0xe0 + code / 0x1000).toUInt8, (0x80 + code / 0x40 % 0x40).toUInt8,
      (0x80 + code % 0x40).toUInt8]
  else
    [(0xf0 + code / 0x40000).toUInt8, (0x80 + code / 0x1000 % 0x40).toUInt8,
      (0x80 + code / 0x40 % 0x40).toUInt8, (0x80 + code % 0x40).toUInt8]

def encodeUtf8 (text : List Char) : List UInt8 := text.flatMap utf8Bytes

/-- Bytes that may follow the first byte of a character. -/
def isTail (byte : UInt8) : Bool := 0x80 ≤ byte && byte ≤ 0xbf

/-- The second bytes that a first byte of three or four admits: the narrow ranges keep out
overlong forms, surrogates and code points that do not exist. -/
def admitsSecond (first second : UInt8) : Bool :=
  if first = 0xe0 then 0xa0 ≤ second && second ≤ 0xbf
  else if first = 0xed then 0x80 ≤ second && second ≤ 0x9f
  else if first = 0xf0 then 0x90 ≤ second && second ≤ 0xbf
  else if first = 0xf4 then 0x80 ≤ second && second ≤ 0x8f
  else isTail second

def tailBits (byte : UInt8) : Nat := byte.toNat - 0x80

/-- Decodes from a position. Each step reads one whole character or stops with the fault. -/
def decodeUtf8From (position : Nat) : List UInt8 → Except Utf8Error (List Char)
  | [] => .ok []
  | first :: rest =>
      let fail := fun (width : Nat) (fault : Utf8Fault) =>
        Except.error (Utf8Error.mk position first width fault)
      if first < 0x80 then
        (decodeUtf8From (position + 1) rest).map (Char.ofNat first.toNat :: ·)
      else if first < 0xc2 || 0xf4 < first then fail 1 .invalidStart
      else if first < 0xe0 then
        match rest with
        | [] => fail 1 .unexpectedEnd
        | second :: rest =>
            if isTail second then
              (decodeUtf8From (position + 2) rest).map
                (Char.ofNat ((first.toNat - 0xc0) * 0x40 + tailBits second) :: ·)
            else fail 1 .invalidContinuation
      else if first < 0xf0 then
        match rest with
        | [] => fail 1 .unexpectedEnd
        | [second] =>
            if admitsSecond first second then fail 2 .unexpectedEnd
            else fail 1 .invalidContinuation
        | second :: third :: rest =>
            if !admitsSecond first second then fail 1 .invalidContinuation
            else if !isTail third then fail 2 .invalidContinuation
            else
              (decodeUtf8From (position + 3) rest).map
                (Char.ofNat ((first.toNat - 0xe0) * 0x1000 + tailBits second * 0x40
                  + tailBits third) :: ·)
      else
        match rest with
        | [] => fail 1 .unexpectedEnd
        | [second] =>
            if admitsSecond first second then fail 2 .unexpectedEnd
            else fail 1 .invalidContinuation
        | [second, third] =>
            if !admitsSecond first second then fail 1 .invalidContinuation
            else if isTail third then fail 3 .unexpectedEnd
            else fail 2 .invalidContinuation
        | second :: third :: fourth :: rest =>
            if !admitsSecond first second then fail 1 .invalidContinuation
            else if !isTail third then fail 2 .invalidContinuation
            else if !isTail fourth then fail 3 .invalidContinuation
            else
              (decodeUtf8From (position + 4) rest).map
                (Char.ofNat ((first.toNat - 0xf0) * 0x40000 + tailBits second * 0x1000
                  + tailBits third * 0x40 + tailBits fourth) :: ·)

/-- The text of a byte sequence. -/
def decodeUtf8 (bytes : List UInt8) : Except Utf8Error (List Char) := decodeUtf8From 0 bytes

/-- What stands for bytes that are no character. -/
def replacementCharacter : Char := '\ufffd'

/-- The text of a byte sequence with refused sequences replaced. Every round takes at least one
byte, so `rounds` need not exceed their number. -/
def decodeUtf8Rounds : (rounds : Nat) → List UInt8 → List Char
  | 0, _ => []
  | rounds + 1, bytes =>
      match decodeUtf8 bytes with
      | .ok text => text
      | .error fault =>
          ((decodeUtf8 (bytes.take fault.position)).toOption.getD [])
            ++ replacementCharacter
              :: decodeUtf8Rounds rounds (bytes.drop (fault.position + max 1 fault.width))

/-- The text of a byte sequence with refused sequences replaced. -/
def decodeUtf8Lossy (bytes : List UInt8) : List Char :=
  decodeUtf8Rounds (bytes.length + 1) bytes

end ReadmePress.Text
