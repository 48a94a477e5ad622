import ReadmePress.Text.Quoted
import ReadmePress.Text.Utf8

/-!
Writing text as UTF-8. A lone surrogate has no UTF-8 form, so a text that holds one is refused
as a whole.
-/

namespace ReadmePress.Text

/-- A text that has no UTF-8 form. -/
structure UnencodableText where
  text : WideText
  deriving DecidableEq, Repr

namespace UnencodableText

def isSurrogate : CodePoint → Bool
  | .surrogate _ => true
  | .scalar _ => false

/-- The report names the first run of surrogates. -/
def message (fault : UnencodableText) : String :=
  let before := fault.text.takeWhile (!isSurrogate ·)
  let run := (fault.text.dropWhile (!isSurrogate ·)).takeWhile isSurrogate
  let place :=
    match run with
    | [single] =>
        "character '" ++ String.ofList (numericEscape single.toNat) ++ "' in position "
          ++ toString before.length
    | _ =>
        "characters in position " ++ toString before.length ++ "-"
          ++ toString (before.length + run.length - 1)
  "'utf-8' codec can't encode " ++ place ++ ": surrogates not allowed"

end UnencodableText

namespace WideText

/-- The characters of a text that is to be written as UTF-8. -/
def encodable (text : WideText) : Except UnencodableText (List Char) :=
  match text.toChars? with
  | some characters => .ok characters
  | none => .error { text := text }

end WideText

end ReadmePress.Text
