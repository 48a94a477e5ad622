/-!
White space of every script, and trimming by it. Control characters that separate lines,
fields or records count as white space, zero-width characters do not.
-/

namespace ReadmePress.Text

/-- Every white-space character, in code-point order. -/
def isBlank (character : Char) : Bool :=
  let code := character.toNat
  (9 ≤ code && code ≤ 13) || (28 ≤ code && code ≤ 32) || code == 0x85 || code == 0xa0 ||
    code == 0x1680 || (0x2000 ≤ code && code ≤ 0x200a) || code == 0x2028 || code == 0x2029 ||
    code == 0x202f || code == 0x205f || code == 0x3000

/-- Drops leading white space. -/
def trimStart (text : List Char) : List Char := text.dropWhile isBlank

/-- Drops trailing white space. -/
def trimEnd : List Char → List Char
  | [] => []
  | character :: rest =>
      match trimEnd rest with
      | [] => if isBlank character then [] else [character]
      | kept => character :: kept

/-- Drops white space at both ends. -/
def trim (text : List Char) : List Char := trimEnd (trimStart text)

end ReadmePress.Text
