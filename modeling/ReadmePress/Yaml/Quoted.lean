import ReadmePress.Text.Percent
import ReadmePress.Yaml.Cursor

/-!
Quoted scalars. Single quotes hold everything as it is written but themselves, which are written
twice; double quotes hold escapes. In both a line end with the blanks around it counts as one
blank, and of several line ends all but the first stay.
-/

namespace ReadmePress.Yaml

open ReadmePress.Text

/-- Takes line ends with the blanks after each. A line that separates documents may not stand
inside quotes. Every round takes at least one character. -/
def quotedBreaks : (rounds : Nat) → Cursor → Except Fault (List Char × Cursor)
  | 0, cursor => .ok ([], cursor)
  | rounds + 1, cursor =>
      if cursor.atDocumentMark then .error .malformed
      else
        let cursor := cursor.skip isBlank
        match cursor.takeBreak? with
        | none => .ok ([], cursor)
        | some (lineEnd, next) => do
            let (more, rest) ← quotedBreaks rounds next
            .ok (lineEnd :: more, rest)

/-- Takes blanks and line ends inside quotes. -/
def quotedGap (cursor : Cursor) : Except Fault (List Char × Cursor) := do
  let (blanks, rest) := cursor.span isBlank
  if rest.atEnd then .error .malformed
  else match rest.takeBreak? with
    | none => .ok (blanks, rest)
    | some (lineEnd, next) =>
        let (breaks, rest) ← quotedBreaks (next.rest.length + 1) next
        .ok
          (if lineEnd != '\n' then lineEnd :: breaks
            else if breaks.isEmpty then [' '] else breaks,
          rest)

/-- What the character after a backslash stands for, where it stands for one character. -/
def simpleEscape? : Char → Option Char
  | '0' => some '\x00'
  | 'a' => some '\x07'
  | 'b' => some '\x08'
  | 't' => some '\t'
  | '\t' => some '\t'
  | 'n' => some '\n'
  | 'v' => some '\x0b'
  | 'f' => some '\x0c'
  | 'r' => some '\r'
  | 'e' => some '\x1b'
  | ' ' => some ' '
  | '"' => some '"'
  | '\\' => some '\\'
  | '/' => some '/'
  | 'N' => some '\u0085'
  | '_' => some '\u00a0'
  | 'L' => some '\u2028'
  | 'P' => some '\u2029'
  | _ => none

/-- The number of digits after the mark of a numeric escape. -/
def escapeWidth? : Char → Option Nat
  | 'x' => some 2
  | 'u' => some 4
  | 'U' => some 8
  | _ => none

/-- The number that hexadecimal digits stand for. -/
def hexNumber? (digits : List Char) : Option Nat :=
  (digits.mapM hexValue?).map fun values =>
    values.foldl (fun total value => 16 * total + value) 0

/-- Takes a numeric escape after its mark. -/
def takeNumericEscape (width : Nat) (cursor : Cursor) : Except Fault (WideText × Cursor) :=
  let (digits, rest) := cursor.take width
  if digits.length < width then .error .malformed
  else match hexNumber? digits with
    | none => .error .malformed
    | some code =>
        match CodePoint.ofNat? code with
        | some point => .ok ([point], rest)
        | none => .error (.noCodePoint code)

/-- Takes an escape after its backslash. An escaped line end stands for nothing. -/
def takeEscape (cursor : Cursor) : Except Fault (WideText × Cursor) :=
  match cursor.next? with
  | none => .error .malformed
  | some character =>
      match simpleEscape? character, escapeWidth? character, cursor.takeBreak? with
      | some meant, _, _ => .ok ([.scalar meant], cursor.advance)
      | none, some width, _ => takeNumericEscape width cursor.advance
      | none, none, some (_, next) => do
          let (breaks, rest) ← quotedBreaks (next.rest.length + 1) next
          .ok (WideText.ofChars breaks, rest)
      | none, none, none => .error .malformed

/-- Takes the text up to the closing quote. Every round takes at least one character. -/
def quotedText (double : Bool) : (rounds : Nat) → Cursor → Except Fault (WideText × Cursor)
  | 0, _ => .error .malformed
  | rounds + 1, cursor => do
      match cursor.next? with
      | none => .error .malformed
      | some character =>
          let mark := if double then '"' else '\''
          if character = mark then
            if !double && cursor.ahead? 1 = some mark then
              let (more, rest) ← quotedText double rounds (cursor.advanceBy 2)
              .ok (.scalar mark :: more, rest)
            else .ok ([], cursor.advance)
          else
            let (part, rest) ←
              if double && character = '\\' then takeEscape cursor.advance
              else if isBlank character || isBreak character then do
                let (gap, rest) ← quotedGap cursor
                .ok (WideText.ofChars gap, rest)
              else .ok ([.scalar character], cursor.advance)
            let (more, rest) ← quotedText double rounds rest
            .ok (part ++ more, rest)

/-- Takes a quoted scalar, at its opening quote. -/
def takeQuoted (double : Bool) (cursor : Cursor) : Except Fault (WideText × Cursor) :=
  quotedText double cursor.rest.length cursor.advance

end ReadmePress.Yaml
