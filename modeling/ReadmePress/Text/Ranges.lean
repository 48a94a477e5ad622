/-!
Sets of characters given as closed ranges of code points in increasing order, so that a search
ends at the first range above the character.
-/

namespace ReadmePress.Text

/-- Closed ranges of code points in increasing order. -/
abbrev Ranges := List (Nat × Nat)

namespace Ranges

/-- Whether one of the ranges, which stand in increasing order, holds the character. -/
def contains : Ranges → Char → Bool
  | [], _ => false
  | (first, last) :: rest, character =>
      if character.toNat < first then false
      else character.toNat ≤ last || contains rest character

end Ranges

end ReadmePress.Text
