import ReadmePress.Yaml.Layout
import ReadmePress.Yaml.ScalarValue

/-!
Documents: the values of all nodes that can be reached from the root. Nodes get their values
level by level, so that of several faults the one nearest to the root counts, and collections
may hold themselves.

A mapping takes over the entries of the mappings that its merge keys name, unless it has those
keys itself. Of equal keys the last counts.
-/

namespace ReadmePress.Yaml

open ReadmePress.Text

/-- A document on the way to its values. -/
structure Evaluation where
  graph : Graph
  /-- The values of the nodes that have been reached. -/
  values : Array (Option Value)
  /-- Collections whose nodes have still to be reached, in reverse. -/
  waiting : List NodeId

namespace Evaluation

/-- The node of a number. -/
def node (evaluation : Evaluation) (id : NodeId) : Node :=
  (evaluation.graph[id]?).getD { tag := .foreign, content := .sequence [] }

def value? (evaluation : Evaluation) (id : NodeId) : Option Value :=
  (evaluation.values[id]?).bind fun value => value

/-- The text of a node: its own, or that of its default entry. -/
def scalarText (evaluation : Evaluation) : (depth : Nat) → NodeId → Except Fault WideText
  | 0, _ => .error .tooDeep
  | depth + 1, id =>
      match (evaluation.node id).content with
      | .scalar text => .ok text
      | .sequence _ => .error .malformed
      | .mapping entries =>
          match entries.find? fun entry => (evaluation.node entry.1).tag == .default with
          | some (_, standing) => evaluation.scalarText depth standing
          | none => .error .malformed

/-- The value that a tag makes of a node. Collections are looked into later. -/
def ownValue (evaluation : Evaluation) (id : NodeId) : Except Fault Value :=
  let node := evaluation.node id
  let text := evaluation.scalarText (evaluation.graph.size + 1) id
  match node.tag with
  | .null => text.map fun _ => .null
  | .bool => (text.bind truthOf).map .bool
  | .integer => (text.bind integerOf).map .integer
  | .float => (text.bind floatOf).map .float
  | .binary => (text.bind bytesOf).map .bytes
  | .timestamp => do
      let _ ← text
      match node.content with
      | .scalar written => (checkTimestamp written).map fun _ => .timestamp
      | _ => .error (.timestamp .notScalar)
  | .text => text.map .text
  | .sequence => .ok .sequence
  | .orderedMap => .ok .sequence
  | .pairs => .ok .sequence
  | .mapping => .ok .mapping
  | .set => .ok .set
  | .merge => .error .malformed
  | .default => .error .malformed
  | .foreign => .error .malformed

/-- Whether a value has nodes in it. -/
def isCollection : Value → Bool
  | .sequence => true
  | .mapping => true
  | .set => true
  | _ => false

/-- Gives a node its value unless it has it. -/
def reach (evaluation : Evaluation) (id : NodeId) : Except Fault Evaluation :=
  match evaluation.value? id with
  | some _ => .ok evaluation
  | none => do
      let value ← evaluation.ownValue id
      .ok
        { evaluation with
          values := evaluation.values.setIfInBounds id (some value)
          waiting := if isCollection value then id :: evaluation.waiting else evaluation.waiting }

/-- Gives a key its value, which must be one that keys may have. -/
def reachKey (evaluation : Evaluation) (id : NodeId) : Except Fault Evaluation := do
  let evaluation ← evaluation.reach id
  if (evaluation.value? id).elim false Value.isKey then .ok evaluation else .error .malformed

def setEntries (graph : Graph) (id : NodeId) (entries : List (NodeId × NodeId)) : Graph :=
  graph.modify id fun node => { node with content := .mapping entries }

def tagOf (graph : Graph) (id : NodeId) : Tag := (graph[id]?).elim .foreign (·.tag)

def contentOf (graph : Graph) (id : NodeId) : Content :=
  (graph[id]?).elim (.sequence []) (·.content)

/-- A default key is an ordinary text where no scalar is asked for. -/
def plainKeys (graph : Graph) (entries : List (NodeId × NodeId)) : Graph :=
  entries.foldl
    (fun graph entry =>
      if tagOf graph entry.1 = .default then
        graph.modify entry.1 fun node => { node with tag := .text }
      else graph)
    graph

mutual

/-- Carries out the merges of a mapping. Every level removes the merge keys of one mapping, so
`depth` need not exceed the number of nodes. -/
def mergeInto : (depth : Nat) → Graph → NodeId → Except Fault Graph
  | 0, _, _ => .error .tooDeep
  | depth + 1, graph, id =>
      match contentOf graph id with
      | .mapping entries => do
          let isMerge := fun (entry : NodeId × NodeId) => tagOf graph entry.1 == .merge
          let own := entries.filter (!isMerge ·)
          let (merged, graph) ← mergedEntries depth (setEntries (plainKeys graph own) id own)
            ((entries.filter isMerge).map (·.2))
          .ok (setEntries graph id (merged ++ own))
      | _ => .error .malformed
  termination_by structural depth => depth

/-- The entries that the values of merge keys name: those of a mapping, or of the mappings in a
sequence, the first of which counts most and so comes last. -/
def mergedEntries : (depth : Nat) → Graph → List NodeId →
    Except Fault (List (NodeId × NodeId) × Graph)
  | 0, _, _ => .error .tooDeep
  | depth + 1, graph, sources => do
      let step := fun (state : List (NodeId × NodeId) × Graph) (source : NodeId) => do
        let (merged, graph) := state
        let single := fun (graph : Graph) (id : NodeId) =>
          match contentOf graph id with
          | .mapping _ => mergeInto depth graph id
          | _ => .error .malformed
        let entriesOf := fun (graph : Graph) (id : NodeId) =>
          match contentOf graph id with
          | .mapping entries => entries
          | _ => []
        match contentOf graph source with
        | .mapping _ => do
            let graph ← single graph source
            .ok (merged ++ entriesOf graph source, graph)
        | .sequence items => do
            let (parts, graph) ← items.foldlM
              (fun (parts, graph) item => do
                let graph ← single graph item
                .ok (entriesOf graph item :: parts, graph))
              (([] : List (List (NodeId × NodeId))), graph)
            .ok (merged ++ parts.flatten, graph)
        | .scalar _ => .error .malformed
      sources.foldlM step ([], graph)
  termination_by structural depth => depth

end

/-- The entry of a mapping that has no other. -/
def soleEntry (evaluation : Evaluation) (id : NodeId) : Except Fault (NodeId × NodeId) :=
  match (evaluation.node id).content with
  | .mapping [entry] => .ok entry
  | _ => .error .malformed

/-- Reaches the nodes in a collection, which must be of the kind that its tag names. -/
def enter (evaluation : Evaluation) (id : NodeId) : Except Fault Evaluation := do
  let node := evaluation.node id
  let entries := fun (evaluation : Evaluation) => do
    let graph ← mergeInto (2 * evaluation.graph.size + 2) evaluation.graph id
    let evaluation := { evaluation with graph := graph }
    match contentOf graph id with
    | .mapping entries =>
        entries.foldlM
          (fun evaluation (key, value) => do (← evaluation.reachKey key).reach value)
          evaluation
    | _ => .error .malformed
  let pairs := fun (evaluation : Evaluation) =>
    match node.content with
    | .sequence items =>
        items.foldlM
          (fun evaluation item => do
            let (key, value) ← evaluation.soleEntry item
            (← evaluation.reach key).reach value)
          evaluation
    | _ => .error .malformed
  match node.tag, node.content with
  | .sequence, .sequence items => items.foldlM reach evaluation
  | .sequence, _ => .error .malformed
  | .orderedMap, _ => pairs evaluation
  | .pairs, _ => pairs evaluation
  | _, _ => entries evaluation

/-- Enters waiting collections, the longest waiting first, level by level. Every node waits at
most once, so `rounds` need not exceed the number of nodes. -/
def finish : (rounds : Nat) → Evaluation → Except Fault Evaluation
  | 0, evaluation => .ok evaluation
  | rounds + 1, evaluation =>
      match evaluation.waiting.reverse with
      | [] => .ok evaluation
      | level => do
          finish rounds (← level.foldlM enter { evaluation with waiting := [] })

end Evaluation

/-- A document with the values of its nodes. -/
structure Document where
  root : NodeId
  evaluation : Evaluation

namespace Document

def ofText (text : List Char) : Except Fault (Option Document) := do
  let (graph, root) ← Graph.ofTokens (Token.ofText text)
  match root with
  | none => .ok none
  | some root => do
      let start : Evaluation :=
        { graph := graph, values := Array.replicate graph.size none, waiting := [] }
      let evaluation ← Evaluation.finish (graph.size + 1) (← start.reach root)
      .ok (some { root := root, evaluation := evaluation })

def value (document : Document) (id : NodeId) : Value :=
  (document.evaluation.value? id).getD .null

/-- The items of a sequence. -/
def items (document : Document) (id : NodeId) : List NodeId :=
  match (document.evaluation.node id).content with
  | .sequence items => items
  | _ => []

/-- The entries of a mapping. -/
def entries (document : Document) (id : NodeId) : List (NodeId × NodeId) :=
  match (document.evaluation.node id).content with
  | .mapping entries => entries
  | _ => []

/-- The value of a text key: of equal keys the last counts. -/
def entry? (document : Document) (id : NodeId) (key : String) : Option NodeId :=
  let isKey := fun (entry : NodeId × NodeId) =>
    document.value entry.1 == .text (WideText.ofString key)
  ((document.entries id).reverse.find? isKey).map (·.2)

/-- Whether a value says nothing: it is null, false, zero or empty. -/
def isVoid (document : Document) (id : NodeId) : Bool :=
  match document.value id with
  | .null => true
  | .bool value => !value
  | .integer value => value == 0
  | .float value => value.isZero
  | .bytes value => value.isEmpty
  | .timestamp => false
  | .text value => value.isEmpty
  | .sequence => (document.items id).isEmpty
  | .mapping => (document.entries id).isEmpty
  | .set => (document.entries id).isEmpty

end Document

end ReadmePress.Yaml
