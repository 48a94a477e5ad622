/-!
Text that may hold lone surrogates. Escapes in data formats can name half of a surrogate pair;
such a text is a legitimate value there, but it has no UTF-8 form and is no `String`.
-/

namespace ReadmePress.Text

/-- A character, or half of a surrogate pair that stands alone. -/
inductive CodePoint where
  | scalar (character : Char)
  | surrogate (offset : Fin 0x800)
  deriving DecidableEq, Repr

namespace CodePoint

def toNat : CodePoint → Nat
  | .scalar character => character.toNat
  | .surrogate offset => 0xd800 + offset.val

/-- The code point of a number, if there is one. -/
def ofNat? (code : Nat) : Option CodePoint :=
  if 0xd800 ≤ code && code < 0xe000 then some (.surrogate (Fin.ofNat 0x800 (code - 0xd800)))
  else if code < 0x110000 then some (.scalar (Char.ofNat code))
  else none

/-- The character of a code point that is no surrogate. -/
def toChar? : CodePoint → Option Char
  | .scalar character => some character
  | .surrogate _ => none

end CodePoint

/-- A text that may hold lone surrogates. -/
abbrev WideText := List CodePoint

namespace WideText

/-- A text without surrogates. -/
def ofChars (text : List Char) : WideText := text.map .scalar

/-- A text without surrogates. -/
def ofString (text : String) : WideText := ofChars text.toList

/-- The characters of a text that holds no surrogate. -/
def toChars? (text : WideText) : Option (List Char) := text.mapM CodePoint.toChar?

/-- The text, if it holds no surrogate. -/
def toString? (text : WideText) : Option String := (toChars? text).map String.ofList

/-- The text is this one, which holds no surrogate. -/
def is (text : WideText) (expected : String) : Bool := text == ofString expected

theorem toChars?_eq_some_iff (text : WideText) (characters : List Char) :
    toChars? text = some characters ↔ text = ofChars characters := by
  induction text generalizing characters with
  | nil => cases characters <;> simp [toChars?, ofChars]
  | cons point rest induction =>
      have step : toChars? (point :: rest) =
          point.toChar?.bind fun character => (toChars? rest).bind fun others =>
            some (character :: others) := by
        rw [toChars?, List.mapM_cons]
        rfl
      rw [step]
      cases point with
      | surrogate offset => cases characters <;> simp [CodePoint.toChar?, ofChars]
      | scalar character =>
          simp only [CodePoint.toChar?, Option.bind_some, Option.bind_eq_some_iff,
            Option.some.injEq]
          constructor
          · rintro ⟨others, found, rfl⟩
            rw [(induction others).mp found]
            rfl
          · intro same
            cases characters with
            | nil => simp [ofChars] at same
            | cons first more =>
                obtain ⟨isFirst, isRest⟩ := List.cons.inj same
                cases isFirst
                exact ⟨more, (induction more).mpr isRest, rfl⟩

theorem toString?_eq_some_iff (text : WideText) (string : String) :
    toString? text = some string ↔ text = ofString string := by
  rw [toString?, Option.map_eq_some_iff]
  constructor
  · rintro ⟨characters, same, rfl⟩
    rw [ofString, String.toList_ofList]
    exact (toChars?_eq_some_iff text characters).mp same
  · intro same
    exact ⟨string.toList, (toChars?_eq_some_iff text _).mpr same, String.ofList_toList⟩

end WideText

end ReadmePress.Text
