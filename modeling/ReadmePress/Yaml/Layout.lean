import ReadmePress.OrderedMap
import ReadmePress.Yaml.Block
import ReadmePress.Yaml.Plain
import ReadmePress.Yaml.Property
import ReadmePress.Yaml.Quoted

/-!
From text to tokens. Two things cannot be told from the next characters alone: where block
collections start and end, which the columns of their entries show, and that a node was a key,
which only the colon after it shows. So the columns of the open block collections are kept, and
for each level of flow collections the place of the last node that may yet turn out to be a key.
Such a key stands on one line and is at most 1024 characters long.
-/

namespace ReadmePress.Yaml

open ReadmePress.Text

/-- A node that may be a key. -/
structure KeyPlace where
  /-- The number of tokens before the node. -/
  tokensBefore : Nat
  /-- Nothing but a key can stand here. -/
  required : Bool
  index : Nat
  line : Nat
  column : Nat

/-- The reading of a text up to some place. -/
structure Layout where
  cursor : Cursor
  tokens : Array Token
  /-- The number of open flow collections. -/
  flowDepth : Nat
  /-- The column of the innermost block collection, or -1. -/
  indent : Int
  outerIndents : List Int
  /-- Whether a key may start here. -/
  keyAllowed : Bool
  /-- The possible key of each level of flow collections. -/
  keys : List (Nat × KeyPlace)

namespace Layout

/-- The longest key that is written without a mark of its own. -/
def keyLimit : Nat := 1024

def ofText (text : List Char) : Layout :=
  { cursor := Cursor.ofText text
    tokens := #[]
    flowDepth := 0
    indent := -1
    outerIndents := []
    keyAllowed := true
    keys := [] }

def inFlow (layout : Layout) : Bool := layout.flowDepth != 0

def push (layout : Layout) (token : Token) : Layout :=
  { layout with tokens := layout.tokens.push token }

/-- Puts a token before tokens that are already there. -/
def insertAt (layout : Layout) (place : Nat) (token : Token) : Layout :=
  { layout with tokens := layout.tokens.insertIdxIfInBounds place token }

/-- A node of the current level that was taken for a possible key is none. -/
def dropKey (layout : Layout) : Except Fault Layout :=
  match OrderedMap.find? layout.keys layout.flowDepth with
  | none => .ok layout
  | some key =>
      if key.required then .error .malformed
      else
        .ok { layout with keys := layout.keys.filter fun entry => entry.1 != layout.flowDepth }

/-- Notes that the node that starts here may be a key. -/
def noteKey (layout : Layout) : Except Fault Layout :=
  if !layout.keyAllowed then .ok layout
  else do
    let layout ← layout.dropKey
    let cursor := layout.cursor
    let key : KeyPlace :=
      { tokensBefore := layout.tokens.size
        required := !layout.inFlow && layout.indent == cursor.column
        index := cursor.index
        line := cursor.line
        column := cursor.column }
    .ok { layout with keys := (layout.flowDepth, key) :: layout.keys }

/-- Whether a node can no longer be a key. -/
def isStale (cursor : Cursor) (key : KeyPlace) : Bool :=
  key.line != cursor.line || keyLimit < cursor.index - key.index

/-- Gives up possible keys that have become too long. -/
def dropStaleKeys (layout : Layout) : Except Fault Layout :=
  let stale := fun (entry : Nat × KeyPlace) => isStale layout.cursor entry.2
  if layout.keys.any fun entry => stale entry && entry.2.required then .error .malformed
  else .ok { layout with keys := layout.keys.filter fun entry => !stale entry }

/-- The number of block collections that end before a column, and those around them. -/
def closing (column : Int) (indent : Int) : List Int → Nat × Int × List Int
  | [] => (0, indent, [])
  | outer :: rest =>
      if indent ≤ column then (0, indent, outer :: rest)
      else
        let (count, indent, rest) := closing column outer rest
        (count + 1, indent, rest)

/-- Ends the block collections that stand to the right of a column. Inside flow collections
columns mean nothing. -/
def closeTo (layout : Layout) (column : Int) : Layout :=
  if layout.inFlow then layout
  else
    let (count, indent, outer) := closing column layout.indent layout.outerIndents
    { layout with
      indent := indent
      outerIndents := outer
      tokens := layout.tokens ++ Array.replicate count Token.blockEnd }

/-- Whether an entry at a column opens a block collection. -/
def opensAt (layout : Layout) (column : Nat) : Bool :=
  !layout.inFlow && layout.indent < column

/-- Opens a block collection at a column. -/
def openAt (layout : Layout) (column : Nat) : Layout :=
  { layout with indent := column, outerIndents := layout.indent :: layout.outerIndents }

/-- Goes over blanks, comments and line ends. Outside flow collections a key may start on a new
line. Every round takes at least one character. -/
def skipBlanks : (rounds : Nat) → Layout → Layout
  | 0, layout => layout
  | rounds + 1, layout =>
      let cursor := layout.cursor.skip isSpace
      let cursor := if cursor.next? = some '#' then cursor.skip (!isBreak ·) else cursor
      match cursor.takeBreak? with
      | none => { layout with cursor := cursor }
      | some (_, next) =>
          skipBlanks rounds
            { layout with cursor := next, keyAllowed := layout.keyAllowed || !layout.inFlow }

/-- A mark of some characters that starts no node: after it a key may or may not start. -/
def mark (layout : Layout) (token : Token) (length : Nat) (keyAllowed : Bool) :
    Except Fault Layout := do
  let layout ← layout.dropKey
  .ok
    { layout with
      cursor := layout.cursor.advanceBy length
      tokens := layout.tokens.push token
      keyAllowed := keyAllowed }

/-- The end of the text, or a line between documents: all block collections end. -/
def separator (layout : Layout) (token : Token) (length : Nat) : Except Fault Layout :=
  (layout.closeTo (-1)).mark token length false

def directive (layout : Layout) : Except Fault Layout := do
  let layout ← (layout.closeTo (-1)).dropKey
  let (directive, rest) ← takeDirective layout.cursor.advance
  .ok { layout.push (.directive directive) with cursor := rest, keyAllowed := false }

def flowStart (layout : Layout) (token : Token) : Except Fault Layout := do
  let layout ← layout.noteKey
  .ok
    { layout.push token with
      cursor := layout.cursor.advance
      flowDepth := layout.flowDepth + 1
      keyAllowed := true }

def flowEnd (layout : Layout) (token : Token) : Except Fault Layout := do
  let layout ← layout.mark token 1 false
  .ok { layout with flowDepth := layout.flowDepth - 1 }

/-- A mark that outside flow collections may open a block collection, and only where a key may
start. -/
def entryMark (layout : Layout) (start token : Token) (keyAllowed : Bool) :
    Except Fault Layout :=
  let column := layout.cursor.column
  if layout.inFlow then layout.mark token 1 keyAllowed
  else if !layout.keyAllowed then .error .malformed
  else if layout.opensAt column then ((layout.openAt column).push start).mark token 1 keyAllowed
  else layout.mark token 1 keyAllowed

/-- A colon. It makes a key of the node that was noted, which may open a block mapping. -/
def valueMark (layout : Layout) : Except Fault Layout :=
  match OrderedMap.find? layout.keys layout.flowDepth with
  | none => layout.entryMark .blockMappingStart .value (!layout.inFlow)
  | some key =>
      let layout := layout.insertAt key.tokensBefore .key
      let layout :=
        if layout.opensAt key.column then
          (layout.openAt key.column).insertAt key.tokensBefore .blockMappingStart
        else layout
      .ok
        { layout.push .value with
          cursor := layout.cursor.advance
          keyAllowed := false
          keys := layout.keys.filter fun entry => entry.1 != layout.flowDepth }

/-- A token that starts a node, taken after the place was noted as a possible key. -/
def nodeToken (layout : Layout) (take : Cursor → Except Fault (Token × Cursor)) :
    Except Fault Layout := do
  let layout ← layout.noteKey
  let (token, rest) ← take layout.cursor
  .ok { layout.push token with cursor := rest, keyAllowed := false }

def plainScalar (layout : Layout) : Except Fault Layout := do
  let layout ← layout.noteKey
  let scalar := takePlain layout.inFlow layout.indent layout.cursor
  .ok
    { layout.push (.scalar (WideText.ofChars scalar.text) true) with
      cursor := scalar.rest
      keyAllowed := scalar.crossesLine }

def blockScalar (layout : Layout) (folded : Bool) : Except Fault Layout := do
  let layout ← layout.dropKey
  let (text, rest) ← takeBlock folded layout.indent layout.cursor
  .ok
    { layout.push (.scalar (WideText.ofChars text) false) with
      cursor := rest
      keyAllowed := true }

/-- Goes over the next token, at its first character. -/
def nextToken (layout : Layout) (first : Char) : Except Fault Layout :=
  let cursor := layout.cursor
  let wordEnds := endsWord (cursor.ahead? 1)
  let flow := layout.inFlow
  let atLineStart := cursor.column = 0
  if first = '%' && atLineStart then layout.directive
  else if first = '-' && atLineStart && cursor.atDocumentMark then
    layout.separator .documentStart 3
  else if first = '.' && atLineStart && cursor.atDocumentMark then
    layout.separator .documentEnd 3
  else if first = '[' then layout.flowStart .flowSequenceStart
  else if first = '{' then layout.flowStart .flowMappingStart
  else if first = ']' then layout.flowEnd .flowSequenceEnd
  else if first = '}' then layout.flowEnd .flowMappingEnd
  else if first = ',' then layout.mark .flowEntry 1 true
  else if first = '-' && wordEnds then layout.entryMark .blockSequenceStart .blockEntry true
  else if first = '?' && (flow || wordEnds) then
    layout.entryMark .blockMappingStart .key (!flow)
  else if first = ':' && (flow || wordEnds) then layout.valueMark
  else if first = '*' then
    layout.nodeToken fun cursor =>
      (takeAnchorName cursor.advance).map fun (name, rest) => (.reference name, rest)
  else if first = '&' then
    layout.nodeToken fun cursor =>
      (takeAnchorName cursor.advance).map fun (name, rest) => (.anchor name, rest)
  else if first = '!' then
    layout.nodeToken fun cursor =>
      (takeTag cursor).map fun (name, rest) => (.tag name, rest)
  else if (first = '|' || first = '>') && !flow then layout.blockScalar (first == '>')
  else if first = '\'' || first = '"' then
    layout.nodeToken fun cursor =>
      (takeQuoted (first == '"') cursor).map fun (text, rest) => (.scalar text false, rest)
  else if startsPlain flow cursor then layout.plainScalar
  else .error .malformed

/-- Goes over the next token with all that is before it. -/
def step (layout : Layout) : Except Fault Layout := do
  let layout := layout.skipBlanks (layout.cursor.rest.length + 1)
  let layout ← layout.dropStaleKeys
  let layout := layout.closeTo layout.cursor.column
  match layout.cursor.next? with
  | none => layout.separator .textEnd 0
  | some first => layout.nextToken first

/-- Goes over all tokens. Every round but the last takes at least one character. -/
def finish : (rounds : Nat) → Layout → List Token
  | 0, layout => layout.tokens.toList
  | rounds + 1, layout =>
      match layout.step with
      | .error fault => layout.tokens.toList ++ [.broken fault]
      | .ok next =>
          if next.tokens.back? = some .textEnd then next.tokens.toList
          else finish rounds next

end Layout

/-- Characters that may stand in a text at all. -/
def isAdmitted (character : Char) : Bool :=
  let code := character.toNat
  code = 9 || code = 10 || code = 13 || (0x20 ≤ code && code ≤ 0x7e) || code = 0x85
    || (0xa0 ≤ code && code ≤ 0xd7ff) || (0xe000 ≤ code && code ≤ 0xfffd) || 0x10000 ≤ code

/-- The tokens of a text. A byte order mark at its start is skipped. -/
def Token.ofText (text : List Char) : List Token :=
  if text.all isAdmitted then
    let start := Layout.ofText text
    let start :=
      if text.head? = some '\ufeff' then { start with cursor := start.cursor.advance } else start
    start.finish (text.length + 1)
  else [.broken .malformed]

end ReadmePress.Yaml
