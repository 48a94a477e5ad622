import ReadmePress.Yaml.Cursor

/-!
Plain scalars: text without quotes. It ends before a colon that a blank follows, before a
comment, and inside flow collections before the marks of these. It may go on over further lines,
which are joined by a blank, or by the line ends that are left of empty lines.
-/

namespace ReadmePress.Yaml

/-- Marks that end plain text inside flow collections. -/
def isFlowMark (character : Char) : Bool := ",?[]\x7b\x7d".toList.contains character

/-- The number of characters up to the next blank or to what ends the scalar. -/
def plainLength (inFlow : Bool) : List Char → Nat
  | [] => 0
  | character :: rest =>
      if isBlank character || isBreak character then 0
      else if inFlow && isFlowMark character then 0
      else if character = ':' &&
          (endsWord rest.head? || (inFlow && (rest.head?.elim false (",[]\x7b\x7d".toList.contains ·))))
      then 0
      else plainLength inFlow rest + 1

/-- What lies between two words of a plain scalar. -/
structure PlainGap where
  /-- What stands for the gap if a word follows; nothing where the scalar must end. -/
  text : List Char
  /-- Whether the gap holds a line end. -/
  crossesLine : Bool
  rest : Cursor

/-- Takes empty lines and the indentation of the next line. Every round takes at least one
character, so `rounds` need not exceed the length of the text. Tells also whether the line that
follows separates documents. -/
def gapBreaks : (rounds : Nat) → Cursor → List Char × Bool × Cursor
  | 0, cursor => ([], false, cursor)
  | rounds + 1, cursor =>
      let cursor := cursor.skip isSpace
      match cursor.takeBreak? with
      | none => ([], false, cursor)
      | some (lineEnd, next) =>
          if next.atDocumentMark then ([lineEnd], true, next)
          else
            let (more, atMark, rest) := gapBreaks rounds next
            (lineEnd :: more, atMark, rest)

/-- Takes what lies behind a word. -/
def plainGap (cursor : Cursor) : PlainGap :=
  let (blanks, rest) := cursor.span isSpace
  match rest.takeBreak? with
  | none => { text := blanks, crossesLine := false, rest := rest }
  | some (lineEnd, next) =>
      if next.atDocumentMark then { text := [], crossesLine := true, rest := next }
      else
        let (breaks, atMark, rest) := gapBreaks next.rest.length next
        let text :=
          if lineEnd != '\n' then lineEnd :: breaks
          else if breaks.isEmpty then [' '] else breaks
        { text := if atMark then [] else text, crossesLine := true, rest := rest }

/-- A plain scalar, whether a line end came last, and what follows. -/
structure PlainText where
  text : List Char
  crossesLine : Bool
  rest : Cursor

/-- The words of a scalar after a gap. Text outside flow collections must be indented by more
than `indent`. Every round takes at least one character. -/
def plainAfter (inFlow : Bool) (indent : Int) : (rounds : Nat) → PlainGap → PlainText
  | 0, gap => { text := [], crossesLine := gap.crossesLine, rest := gap.rest }
  | rounds + 1, gap =>
      let ends := { text := [], crossesLine := gap.crossesLine, rest := gap.rest }
      if gap.text.isEmpty || gap.rest.next? = some '#'
          || (!inFlow && gap.rest.column ≤ indent) then ends
      else
        let (word, rest) := gap.rest.take (plainLength inFlow gap.rest.rest)
        if word.isEmpty then ends
        else
          let more := plainAfter inFlow indent rounds (plainGap rest)
          { more with text := gap.text ++ word ++ more.text }

def takePlain (inFlow : Bool) (indent : Int) (cursor : Cursor) : PlainText :=
  let (word, rest) := cursor.take (plainLength inFlow cursor.rest)
  let more := plainAfter inFlow indent rest.rest.length (plainGap rest)
  { more with text := word ++ more.text }

/-- Whether a plain scalar starts here. -/
def startsPlain (inFlow : Bool) (cursor : Cursor) : Bool :=
  match cursor.next? with
  | none => false
  | some character =>
      let isMark := "-?:,[]\x7b\x7d#&*!|>'\"%@".toList.contains character
        || character == Char.ofNat 0x60
      if isBlank character || isBreak character then false
      else if !isMark then true
      else !endsWord (cursor.ahead? 1)
        && (character == '-' || (!inFlow && (character == '?' || character == ':')))

end ReadmePress.Yaml
