import ReadmePress.Yaml.Cursor

/-!
Block scalars: the lines below a header, as far as they are indented. A literal scalar keeps its
line ends; a folded one puts a blank in place of a line end between two lines that start with
text. The header tells what becomes of the line ends after the last line, and may tell the
indentation, which else is that of the first line that is not empty.
-/

namespace ReadmePress.Yaml

/-- What becomes of the line ends after the last line. -/
inductive Chomping where
  | strip
  /-- One of them stays. -/
  | clip
  | keep
  deriving DecidableEq, Repr

structure BlockHeader where
  chomping : Chomping
  indentation : Option Nat
  deriving DecidableEq, Repr

def takeChomping? (cursor : Cursor) : Option (Chomping × Cursor) :=
  match cursor.next? with
  | some '-' => some (.strip, cursor.advance)
  | some '+' => some (.keep, cursor.advance)
  | _ => none

/-- Takes the digit of an indentation, which is not zero. -/
def takeIndentation (cursor : Cursor) : Except Fault (Option Nat × Cursor) :=
  match cursor.next? with
  | none => .ok (none, cursor)
  | some character =>
      if !character.isDigit then .ok (none, cursor)
      else if character = '0' then .error .malformed
      else .ok (some (character.toNat - 48), cursor.advance)

/-- Takes the header after its first mark, with its line. The two parts may come in either
order. -/
def takeBlockHeader (cursor : Cursor) : Except Fault (BlockHeader × Cursor) := do
  let (header, rest) ←
    match takeChomping? cursor with
    | some (chomping, rest) => do
        let (indentation, rest) ← takeIndentation rest
        .ok (BlockHeader.mk chomping indentation, rest)
    | none => do
        let (indentation, rest) ← takeIndentation cursor
        match indentation.bind fun _ => takeChomping? rest with
        | some (chomping, rest) => .ok (BlockHeader.mk chomping indentation, rest)
        | none => .ok (BlockHeader.mk .clip indentation, rest)
  if endsPhrase rest.next? then .ok (header, ← rest.finishLine) else .error .malformed

/-- Goes over blanks, but not beyond a column. -/
def skipToColumn (column : Nat) (cursor : Cursor) : Cursor :=
  cursor.advanceBy ((cursor.rest.take (column - cursor.column)).takeWhile isSpace).length

/-- Takes line ends with the indentation after each. Every round takes at least one
character. -/
def blockBreaks (indent : Nat) : (rounds : Nat) → Cursor → List Char × Cursor
  | 0, cursor => ([], cursor)
  | rounds + 1, cursor =>
      match cursor.takeBreak? with
      | none => ([], cursor)
      | some (lineEnd, next) =>
          let (more, rest) := blockBreaks indent rounds (skipToColumn indent next)
          (lineEnd :: more, rest)

/-- Takes line ends and blanks of any number, and finds the greatest column among them. Every
round takes at least one character. -/
def leadingBreaks (greatest : Nat) : (rounds : Nat) → Cursor → List Char × Nat × Cursor
  | 0, cursor => ([], greatest, cursor)
  | rounds + 1, cursor =>
      if cursor.next? = some ' ' then
        leadingBreaks (max greatest cursor.advance.column) rounds cursor.advance
      else match cursor.takeBreak? with
        | none => ([], greatest, cursor)
        | some (lineEnd, next) =>
            let (more, greatest, rest) := leadingBreaks greatest rounds next
            (lineEnd :: more, greatest, rest)

/-- The lines of a block, the line end after the last, and the line ends of the empty lines
that follow it. -/
structure BlockText where
  text : List Char
  lastBreak : List Char
  emptyLines : List Char
  rest : Cursor

def startsText (cursor : Cursor) : Bool := !(cursor.next?.elim false isBlank)

/-- Takes the lines from one on that stands at the indentation. -/
def blockLines (folded : Bool) (indent : Nat) : (rounds : Nat) → Cursor → BlockText
  | 0, cursor => { text := [], lastBreak := [], emptyLines := [], rest := cursor }
  | rounds + 1, cursor =>
      let (line, afterLine) := cursor.span (!isBreak ·)
      let (lineEnd, afterBreak) :=
        match afterLine.takeBreak? with
        | some (lineEnd, next) => ([lineEnd], next)
        | none => ([], afterLine)
      let start := skipToColumn indent afterBreak
      let (emptyLines, next) := blockBreaks indent start.rest.length start
      if next.column = indent && !next.atEnd then
        let joint :=
          if folded && lineEnd == ['\n'] && startsText cursor && startsText next then
            if emptyLines.isEmpty then [' '] else []
          else lineEnd
        let more := blockLines folded indent rounds next
        { more with text := line ++ joint ++ emptyLines ++ more.text }
      else { text := line, lastBreak := lineEnd, emptyLines := emptyLines, rest := next }

/-- Takes a block scalar, at its first mark, below a collection of this indentation. -/
def takeBlock (folded : Bool) (parentIndent : Int) (cursor : Cursor) :
    Except Fault (List Char × Cursor) := do
  let (header, start) ← takeBlockHeader cursor.advance
  let least := (max (parentIndent + 1) 1).toNat
  let rounds := start.rest.length + 1
  let (indent, leading, first) :=
    match header.indentation with
    | some more =>
        let indent := least + more - 1
        let (leading, first) := blockBreaks indent rounds (skipToColumn indent start)
        (indent, leading, first)
    | none =>
        let (leading, greatest, first) := leadingBreaks 0 rounds start
        (max least greatest, leading, first)
  let body :=
    if first.column = indent && !first.atEnd then
      let body := blockLines folded indent rounds first
      { body with text := leading ++ body.text }
    else { text := [], lastBreak := [], emptyLines := leading, rest := first }
  let tail :=
    match header.chomping with
    | .strip => []
    | .clip => body.lastBreak
    | .keep => body.lastBreak ++ body.emptyLines
  .ok (body.text ++ tail, body.rest)

end ReadmePress.Yaml
