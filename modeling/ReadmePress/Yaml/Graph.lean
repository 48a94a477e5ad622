import ReadmePress.OrderedMap
import ReadmePress.Yaml.Tag
import ReadmePress.Yaml.Timestamp
import ReadmePress.Yaml.Token

/-!
The graph of a document: its nodes by number. A node that is referred to again is the same node,
so a collection may even hold itself.
-/

namespace ReadmePress.Yaml

open ReadmePress.Text

abbrev NodeId := Nat

inductive Content where
  | scalar (text : WideText)
  | sequence (items : List NodeId)
  | mapping (entries : List (NodeId × NodeId))
  deriving DecidableEq, Repr

structure Node where
  tag : Tag
  content : Content
  deriving DecidableEq, Repr

/-- The nodes of a document. -/
abbrev Graph := Array Node

/-- The text that the patterns of scalar forms look at: a line feed at its end does not count. -/
def formOf (text : List Char) : List Char :=
  match text.reverse with
  | '\n' :: rest => rest.reverse
  | _ => text

/-- The kind of value whose form a scalar has. -/
def impliedTag (text : WideText) : Tag :=
  match WideText.toChars? text with
  | none => .text
  | some [] => .null
  | some characters =>
      let form := formOf characters
      if Tag.isTruthWord form then .bool
      else if Tag.isFloat form then .float
      else if Tag.isInteger form then .integer
      else if form = ['<', '<'] then .merge
      else if Tag.isNullWord form then .null
      else if ((TimestampParts.ofText? form).elim false TimestampParts.isPlain) then .timestamp
      else if form = ['='] then .default
      else if form = ['!'] || form = ['&'] || form = ['*'] then .foreign
      else .text

/-- The construction of a graph from tokens. -/
structure Drafting where
  tokens : List Token
  /-- What the handles of tags stand for. -/
  handles : List (String × String)
  anchors : List (String × NodeId)
  graph : Graph

/-- A step of the construction. -/
abbrev Draft (Result : Type) := StateT Drafting (Except Fault) Result

namespace Draft

def malformed {Result : Type} : Draft Result := throw .malformed

/-- The next token. A text that cannot be taken apart further is not asked beyond its fault. -/
def peek : Draft Token := do
  match (← get).tokens with
  | [] => malformed
  | .broken fault :: _ => throw fault
  | token :: _ => return token

/-- Goes over the next token. -/
def drop : Draft Unit := modify fun drafting => { drafting with tokens := drafting.tokens.drop 1 }

/-- Whether the next token is this one, which is then gone over. -/
def accept (expected : Token) : Draft Bool := do
  if (← peek) = expected then
    drop
    return true
  else return false

/-- Goes over the next token, which must be this one. -/
def expect (expected : Token) : Draft Unit := do
  unless ← accept expected do malformed

/-- Adds a node. -/
def addNode (node : Node) : Draft NodeId := do
  let drafting ← get
  set { drafting with graph := drafting.graph.push node }
  return drafting.graph.size

def setContent (node : NodeId) (content : Content) : Draft Unit :=
  modify fun drafting =>
    { drafting with
      graph := drafting.graph.modify node fun known => { known with content := content } }

/-- A scalar that is not written at all. -/
def emptyScalar : Draft NodeId := addNode { tag := impliedTag [], content := .scalar [] }

/-- What goes before a node. -/
structure Properties where
  anchor : Option String
  tag : Option TagName

def takeAnchor? : Draft (Option String) := do
  match ← peek with
  | .anchor name => do
      drop
      return some name
  | _ => return none

def takeTag? : Draft (Option TagName) := do
  match ← peek with
  | .tag name => do
      drop
      return some name
  | _ => return none

/-- Takes an anchor and a tag in either order. -/
def takeProperties : Draft Properties := do
  match ← takeAnchor? with
  | some name => return { anchor := some name, tag := ← takeTag? }
  | none =>
      match ← takeTag? with
      | some tag => return { anchor := ← takeAnchor?, tag := some tag }
      | none => return { anchor := none, tag := none }

/-- The tag in full. A lone exclamation mark stays as it is. -/
def resolveTag : Option TagName → Draft (Option String)
  | none => return none
  | some (.verbatim tag) => return some tag
  | some (.shorthand handle suffix) => do
      match OrderedMap.find? (← get).handles handle with
      | some start => return some (start ++ suffix)
      | none => malformed

/-- The tag that only says that the node has none. -/
def nonSpecific : String := "!"

def collectionTag (implied : Tag) : Option String → Tag
  | none => implied
  | some uri => if uri = nonSpecific then implied else Tag.ofUri uri

/-- The tag of a scalar. Text in quotes is text unless it is tagged. -/
def scalarTag (text : WideText) (plain : Bool) : Option String → Tag
  | none => if plain then impliedTag text else .text
  | some uri => if uri = nonSpecific then impliedTag text else Tag.ofUri uri

/-- Remembers the anchor of a node, which no node before it may have. -/
def nameNode (anchor : Option String) (node : NodeId) : Draft Unit :=
  match anchor with
  | none => return ()
  | some name =>
      modify fun drafting => { drafting with anchors := (name, node) :: drafting.anchors }

/-- An anchor may be given only once. -/
def checkAnchor : Option String → Draft Unit
  | none => return ()
  | some name => do
      if (OrderedMap.find? (← get).anchors name).isSome then malformed

/-- Adds a collection. It has its name before its content is known, which may refer to it. -/
def addCollection (anchor : Option String) (tag : Tag) (content : Draft Content) :
    Draft NodeId := do
  let node ← addNode { tag := tag, content := .sequence [] }
  nameNode anchor node
  setContent node (← content)
  return node

/-- Where a node may stand. -/
inductive Position where
  /-- In a flow collection. -/
  | flow
  | block
  /-- In a block mapping, where a sequence need not be indented. -/
  | entry
  deriving DecidableEq, Repr

/-- A node, or an empty scalar if one of these tokens comes instead. -/
def nodeBefore (stops : List Token) (node : Draft NodeId) : Draft NodeId := do
  if stops.contains (← peek) then emptyScalar else node

/-- A value after its mark, or an empty one without the mark. -/
def valueBefore (stops : List Token) (node : Draft NodeId) : Draft NodeId := do
  if ← accept .value then nodeBefore stops node else emptyScalar

/-- Goes over the comma before every entry of a flow collection but the first. -/
def separateEntries (first : Bool) : Draft Unit := do
  unless first do expect .flowEntry

mutual

/-- Takes a node. `depth` bounds the nesting, and `fuel`, of which every token needs at most
four, the rounds of the whole construction. -/
def node (position : Position) (depth : Nat) : (fuel : Nat) → Draft NodeId
  | 0 => malformed
  | fuel + 1 => do
      match ← peek with
      | .reference name => do
          drop
          match OrderedMap.find? (← get).anchors name with
          | some known => return known
          | none => malformed
      | _ => do
          let properties ← takeProperties
          let uri ← resolveTag properties.tag
          let anchor := properties.anchor
          let inner := depth - 1
          let collection := fun implied content => do
            checkAnchor anchor
            if depth = 0 then throw .tooDeep
            else addCollection anchor (collectionTag implied uri) content
          let token ← peek
          if position = .entry && token = .blockEntry then
            collection .sequence
              (return .sequence (← indentlessItems inner fuel))
          else match token, position with
            | .scalar text plain, _ => do
                checkAnchor anchor
                drop
                let scalar ← addNode
                  { tag := scalarTag text plain uri, content := .scalar text }
                nameNode anchor scalar
                return scalar
            | .flowSequenceStart, _ => do
                drop
                collection .sequence (return .sequence (← flowItems true inner fuel))
            | .flowMappingStart, _ => do
                drop
                collection .mapping (return .mapping (← flowEntries true inner fuel))
            | .blockSequenceStart, .block => do
                drop
                collection .sequence (return .sequence (← blockItems inner fuel))
            | .blockSequenceStart, .entry => do
                drop
                collection .sequence (return .sequence (← blockItems inner fuel))
            | .blockMappingStart, .block => do
                drop
                collection .mapping (return .mapping (← blockEntries inner fuel))
            | .blockMappingStart, .entry => do
                drop
                collection .mapping (return .mapping (← blockEntries inner fuel))
            | _, _ => do
                if anchor.isNone && uri.isNone then malformed
                else
                  checkAnchor anchor
                  let scalar ← addNode { tag := scalarTag [] true uri, content := .scalar [] }
                  nameNode anchor scalar
                  return scalar
  termination_by structural fuel => fuel

/-- Takes the items of a block sequence up to its end. -/
def blockItems (depth : Nat) : (fuel : Nat) → Draft (List NodeId)
  | 0 => malformed
  | fuel + 1 => do
      if ← accept .blockEntry then
        let item ← nodeBefore [.blockEntry, .blockEnd] (node .block depth fuel)
        return item :: (← blockItems depth fuel)
      else
        expect .blockEnd
        return []
  termination_by structural fuel => fuel

/-- Takes the items of a sequence that is not indented. -/
def indentlessItems (depth : Nat) : (fuel : Nat) → Draft (List NodeId)
  | 0 => malformed
  | fuel + 1 => do
      if ← accept .blockEntry then
        let item ← nodeBefore [.blockEntry, .key, .value, .blockEnd] (node .block depth fuel)
        return item :: (← indentlessItems depth fuel)
      else return []
  termination_by structural fuel => fuel

/-- Takes the entries of a block mapping up to its end. -/
def blockEntries (depth : Nat) : (fuel : Nat) → Draft (List (NodeId × NodeId))
  | 0 => malformed
  | fuel + 1 => do
      let stops := [Token.key, .value, .blockEnd]
      if ← accept .key then
        let key ← nodeBefore stops (node .entry depth fuel)
        let value ← valueBefore stops (node .entry depth fuel)
        return (key, value) :: (← blockEntries depth fuel)
      else
        expect .blockEnd
        return []
  termination_by structural fuel => fuel

/-- Takes the items of a flow sequence up to its end. An item with a key of its own is a mapping
of one entry. -/
def flowItems (first : Bool) (depth : Nat) : (fuel : Nat) → Draft (List NodeId)
  | 0 => malformed
  | fuel + 1 => do
      if ← accept .flowSequenceEnd then return []
      else
        separateEntries first
        if ← accept .key then
          if depth = 0 then throw .tooDeep
          let inner := depth - 1
          let item ← addCollection none .mapping do
            let key ← nodeBefore [.value, .flowEntry, .flowSequenceEnd] (node .flow inner fuel)
            let value ← valueBefore [.flowEntry, .flowSequenceEnd] (node .flow inner fuel)
            return .mapping [(key, value)]
          return item :: (← flowItems false depth fuel)
        else if ← accept .flowSequenceEnd then return []
        else
          let item ← node .flow depth fuel
          return item :: (← flowItems false depth fuel)
  termination_by structural fuel => fuel

/-- Takes the entries of a flow mapping up to its end. -/
def flowEntries (first : Bool) (depth : Nat) : (fuel : Nat) → Draft (List (NodeId × NodeId))
  | 0 => malformed
  | fuel + 1 => do
      if ← accept .flowMappingEnd then return []
      else
        separateEntries first
        if ← accept .key then
          let key ← nodeBefore [.value, .flowEntry, .flowMappingEnd] (node .flow depth fuel)
          let value ← valueBefore [.flowEntry, .flowMappingEnd] (node .flow depth fuel)
          return (key, value) :: (← flowEntries false depth fuel)
        else if ← accept .flowMappingEnd then return []
        else
          let key ← node .flow depth fuel
          let value ← emptyScalar
          return (key, value) :: (← flowEntries false depth fuel)
  termination_by structural fuel => fuel

end

/-- The directives before a document: at most one version, which must be 1, and every handle
once. -/
def takeDirectives (versionSeen : Bool) : (fuel : Nat) → Draft Unit
  | 0 => malformed
  | fuel + 1 => do
      match ← peek with
      | .directive directive => do
          drop
          match directive with
          | .version major =>
              if versionSeen || major != 1 then malformed
              else takeDirectives true fuel
          | .handle handle tagPrefix => do
              let drafting ← get
              if (OrderedMap.find? drafting.handles handle).isSome then malformed
              else
                set { drafting with handles := (handle, tagPrefix) :: drafting.handles }
                takeDirectives versionSeen fuel
          | .reserved => takeDirectives versionSeen fuel
      | _ => return ()

/-- The handles that every document has unless it declares them itself. -/
def standardHandles : List (String × String) := [("!", "!"), ("!!", Tag.namespaceUri)]

/-- Goes over marks of document ends. -/
def skipEnds : (fuel : Nat) → Draft Unit
  | 0 => malformed
  | fuel + 1 => do
      if ← accept .documentEnd then skipEnds fuel

/-- How many levels of collections may lie in each other. A reader on a bounded stack stops
somewhere between 440 and 500 levels, two calls a level, depending on the calls that are open when
it begins. The limit is a number of that range, so only texts nested 440 to 500 levels deep may be
judged otherwise. -/
def nestingLimit : Nat := 480

/-- Takes the only document of a text, if there is one. A document that starts with its first
node has no directives and no mark of its start. -/
def document (fuel : Nat) : Draft (Option NodeId) := do
  let stops := [Token.documentStart, .documentEnd, .textEnd]
  let marked ←
    match ← peek with
    | .directive _ => pure true
    | token => pure (token == .documentStart)
  if (← peek) = .textEnd then return none
  else
    if marked then
      takeDirectives false fuel
      expect .documentStart
    modify fun drafting => { drafting with handles := drafting.handles ++ standardHandles }
    let isDirective :=
      match ← peek with
      | .directive _ => true
      | _ => false
    let root ←
      if marked && (isDirective || stops.contains (← peek)) then emptyScalar
      else node .block nestingLimit fuel
    skipEnds fuel
    expect .textEnd
    return some root

end Draft

/-- The nodes of a text and the root among them, if the text has a document. -/
def Graph.ofTokens (tokens : List Token) : Except Fault (Graph × Option NodeId) :=
  let start : Drafting := { tokens := tokens, handles := [], anchors := [], graph := #[] }
  (Draft.document (4 * tokens.length + 4) start).map fun (root, drafting) =>
    (drafting.graph, root)

end ReadmePress.Yaml
