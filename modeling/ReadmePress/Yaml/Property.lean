import ReadmePress.Text.Percent
import ReadmePress.Text.Utf8
import ReadmePress.Yaml.Cursor
import ReadmePress.Yaml.Token

/-!
What goes before a node or a document: the names of anchors and aliases, tags, and directives.
-/

namespace ReadmePress.Yaml

open ReadmePress.Number ReadmePress.Text

/-- Characters of anchor, handle and directive names. -/
def isNameCharacter (character : Char) : Bool :=
  character.isAlphanum || character == '-' || character == '_'

/-- Characters of tags besides escapes. -/
def isTagCharacter (character : Char) : Bool :=
  character.isAlphanum || "-;/?:@&=+$,_.!~*'()[]".toList.contains character

/-- Takes a name, which is not empty. -/
def takeName (cursor : Cursor) : Except Fault (String × Cursor) :=
  match cursor.span isNameCharacter with
  | ([], _) => .error .malformed
  | (name, rest) => .ok (String.ofList name, rest)

/-- Takes the name of an anchor or an alias after its mark. -/
def takeAnchorName (cursor : Cursor) : Except Fault (String × Cursor) := do
  let (name, rest) ← takeName cursor
  let follows := rest.next?.elim false fun character =>
    "?:,]\x7d%@".toList.contains character || character == Char.ofNat 0x60
  if endsWord rest.next? || follows then .ok (name, rest) else .error .malformed

/-- The bytes of a run of escapes, and the characters that it takes up. -/
def escapedBytes : List Char → Except Fault (List UInt8 × Nat)
  | '%' :: first :: second :: rest =>
      match hexValue? first, hexValue? second with
      | some high, some low => do
          let (bytes, length) ← escapedBytes rest
          .ok ((16 * high + low).toUInt8 :: bytes, length + 3)
      | _, _ => .error .malformed
  | '%' :: _ => .error .malformed
  | _ => .ok ([], 0)

/-- Takes the characters of a tag with runs of escapes between them. Every round takes at least
one character, so `rounds` need not exceed the length of the text. -/
def tagText : (rounds : Nat) → Cursor → Except Fault (List Char × Cursor)
  | 0, cursor => .ok ([], cursor)
  | rounds + 1, cursor => do
      let (plain, cursor) := cursor.span isTagCharacter
      if cursor.next? = some '%' then
        let (bytes, length) ← escapedBytes cursor.rest
        match decodeUtf8 bytes with
        | .error _ => .error .malformed
        | .ok escaped => do
            let (more, cursor) ← tagText rounds (cursor.advanceBy length)
            .ok (plain ++ escaped ++ more, cursor)
      else .ok (plain, cursor)

/-- Takes the text of a tag, which is not empty. -/
def takeTagText (cursor : Cursor) : Except Fault (String × Cursor) := do
  match ← tagText cursor.rest.length cursor with
  | ([], _) => .error .malformed
  | (text, rest) => .ok (String.ofList text, rest)

/-- Takes a handle: an exclamation mark, and a name with a second one after it unless a blank
follows. -/
def takeHandle (cursor : Cursor) : Except Fault (String × Cursor) :=
  if cursor.next? != some '!' then .error .malformed
  else if cursor.ahead? 1 = some ' ' then .ok ("!", cursor.advance)
  else
    let (name, rest) := cursor.advance.span isNameCharacter
    if rest.next? = some '!' then .ok ("!" ++ String.ofList name ++ "!", rest.advance)
    else .error .malformed

/-- Whether a second exclamation mark stands in the same phrase, so that the tag has a handle. -/
def hasHandle (text : List Char) : Bool :=
  (text.takeWhile fun character => !endsPhrase (some character)).contains '!'

/-- Takes a tag, at its exclamation mark. -/
def takeTag (cursor : Cursor) : Except Fault (TagName × Cursor) := do
  let (name, rest) ←
    if cursor.ahead? 1 = some '<' then do
      let (tag, rest) ← takeTagText (cursor.advanceBy 2)
      if rest.next? = some '>' then .ok (TagName.verbatim tag, rest.advance)
      else .error .malformed
    else if endsWord (cursor.ahead? 1) then .ok (TagName.verbatim "!", cursor.advance)
    else do
      let (handle, rest) ←
        if hasHandle (cursor.rest.drop 1) then takeHandle cursor
        else .ok ("!", cursor.advance)
      let (suffix, rest) ← takeTagText rest
      .ok (TagName.shorthand handle suffix, rest)
  if endsPhrase rest.next? then .ok (name, rest) else .error .malformed

def takeVersionPart (cursor : Cursor) : Except Fault (Int × Cursor) :=
  match cursor.span Char.isDigit with
  | ([], _) => .error .malformed
  | (digits, rest) =>
      match readDecimal digits with
      | .ok value => .ok (value, rest)
      | .error fault => .error (.integer fault)

/-- Takes the two numbers of a version, of which the first decides. -/
def takeVersion (cursor : Cursor) : Except Fault (Directive × Cursor) := do
  let (major, rest) ← takeVersionPart (cursor.skip isSpace)
  if rest.next? != some '.' then .error .malformed
  else
    let (_, rest) ← takeVersionPart rest.advance
    if endsPhrase rest.next? then .ok (.version major, rest) else .error .malformed

/-- Takes a handle and the prefix that it stands for. -/
def takeHandlePrefix (cursor : Cursor) : Except Fault (Directive × Cursor) := do
  let (handle, rest) ← takeHandle (cursor.skip isSpace)
  if rest.next? != some ' ' then .error .malformed
  else
    let (tagPrefix, rest) ← takeTagText (rest.skip isSpace)
    if endsPhrase rest.next? then .ok (.handle handle tagPrefix, rest) else .error .malformed

/-- Takes a directive with its line, after the percent sign. -/
def takeDirective (cursor : Cursor) : Except Fault (Directive × Cursor) := do
  let (name, rest) ← takeName cursor
  if !endsPhrase rest.next? then .error .malformed
  else
    let (directive, rest) ←
      if name = "YAML" then takeVersion rest
      else if name = "TAG" then takeHandlePrefix rest
      else .ok (.reserved, rest.skip (!isBreak ·))
    .ok (directive, ← rest.finishLine)

end ReadmePress.Yaml
