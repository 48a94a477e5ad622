import ReadmePress.Yaml.Fault

/-!
A place in a YAML text: what is left of it, and the index, the line and the column reached so
far. A byte order mark has no column of its own.
-/

namespace ReadmePress.Yaml

structure Cursor where
  rest : List Char
  index : Nat
  line : Nat
  column : Nat

/-- Characters that end a line. -/
def isBreak (character : Char) : Bool :=
  character == '\n' || character == '\r' || character == '\u0085' || character == '\u2028'
    || character == '\u2029'

def isSpace (character : Char) : Bool := character == ' '

/-- Blanks within a line. -/
def isBlank (character : Char) : Bool := character == ' ' || character == '\t'

/-- Whether a word ends before this character or at the end of the text. -/
def endsWord (next : Option Char) : Bool :=
  next.elim true fun character => isBlank character || isBreak character

/-- Whether a token that admits no tabulator after it ends here. -/
def endsPhrase (next : Option Char) : Bool :=
  next.elim true fun character => isSpace character || isBreak character

namespace Cursor

def ofText (text : List Char) : Cursor := { rest := text, index := 0, line := 0, column := 0 }

def next? (cursor : Cursor) : Option Char := cursor.rest.head?

def ahead? (cursor : Cursor) (distance : Nat) : Option Char := cursor.rest[distance]?

def atEnd (cursor : Cursor) : Bool := cursor.rest.isEmpty

/-- Goes over one character. A carriage return before a line feed does not end the line. -/
def advance (cursor : Cursor) : Cursor :=
  match cursor.rest with
  | [] => cursor
  | character :: rest =>
      let ends := isBreak character && !(character == '\r' && rest.head? == some '\n')
      { rest := rest
        index := cursor.index + 1
        line := if ends then cursor.line + 1 else cursor.line
        column :=
          if ends then 0 else if character = '\ufeff' then cursor.column else cursor.column + 1 }

/-- Goes over some characters. -/
def advanceBy (cursor : Cursor) : Nat → Cursor
  | 0 => cursor
  | count + 1 => cursor.advance.advanceBy count

def take (cursor : Cursor) (count : Nat) : List Char × Cursor :=
  (cursor.rest.take count, cursor.advanceBy count)

/-- Takes the longest run of characters of a kind. -/
def span (cursor : Cursor) (kind : Char → Bool) : List Char × Cursor :=
  cursor.take (cursor.rest.takeWhile kind).length

/-- Goes over the longest run of characters of a kind. -/
def skip (cursor : Cursor) (kind : Char → Bool) : Cursor := (cursor.span kind).2

/-- Takes a line end. Those that every system writes become line feeds. -/
def takeBreak? (cursor : Cursor) : Option (Char × Cursor) :=
  match cursor.rest with
  | '\r' :: '\n' :: _ => some ('\n', cursor.advanceBy 2)
  | character :: _ =>
      if !isBreak character then none
      else if character = '\u2028' || character = '\u2029' then some (character, cursor.advance)
      else some ('\n', cursor.advance)
  | [] => none

/-- Whether a line of three hyphens or three dots starts here. -/
def atDocumentMark (cursor : Cursor) : Bool :=
  (['-', '-', '-'].isPrefixOf cursor.rest || ['.', '.', '.'].isPrefixOf cursor.rest)
    && endsWord (cursor.ahead? 3)

/-- Goes over what may end a line: blanks, a comment and the line end, which the end of the text
may stand for. -/
def finishLine (cursor : Cursor) : Except Fault Cursor :=
  let cursor := cursor.skip isSpace
  let cursor := if cursor.next? = some '#' then cursor.skip (!isBreak ·) else cursor
  if cursor.atEnd then .ok cursor
  else match cursor.takeBreak? with
    | some (_, next) => .ok next
    | none => .error .malformed

end Cursor

end ReadmePress.Yaml
