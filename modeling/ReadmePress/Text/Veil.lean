import ReadmePress.Text.CodePoint

/-!
Wide text written in characters. Two characters stand for a surrogate, of which the first is the
last character below the surrogates; that character itself is written as two. So texts keep their
order, no blank, line break or marker appears or goes away, and what is put together from veiled
texts can be unveiled as a whole.
-/

namespace ReadmePress.Text

namespace WideText

/-- Begins what stands for a surrogate, and what stands for this character. -/
def veilMark : Char := '\ud7ff'

/-- Follows the mark where the mark stands for itself. -/
def plainSign : Char := '!'

/-- Follows the mark where both stand for a surrogate. These signs are above the plain one. -/
def surrogateSign (offset : Fin 0x800) : Char := Char.ofNat (0x4e00 + offset.val)

def veilPoint : CodePoint → List Char
  | .scalar character =>
      if character = veilMark then [veilMark, plainSign] else [character]
  | .surrogate offset => [veilMark, surrogateSign offset]

def veil (text : WideText) : List Char := text.flatMap veilPoint

/-- The code point that the mark and a sign stand for. -/
def unveilSign (sign : Char) : CodePoint :=
  if sign = plainSign then .scalar veilMark
  else .surrogate ⟨(sign.toNat - 0x4e00) % 0x800, Nat.mod_lt _ (by decide)⟩

def unveil : List Char → WideText
  | [] => []
  | [character] => [.scalar character]
  | character :: sign :: rest =>
      if character = veilMark then unveilSign sign :: unveil rest
      else .scalar character :: unveil (sign :: rest)

end WideText

end ReadmePress.Text
