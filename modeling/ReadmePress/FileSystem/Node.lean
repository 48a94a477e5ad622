import ReadmePress.OrderedMap

/-!
The tree of files, directories and symbolic links. A place in it is the list of names that lead
there from the root; links are not followed here.
-/

namespace ReadmePress

inductive Node where
  | file (content : List UInt8)
  | link (target : String)
  | directory (entries : List (String × Node))

/-- The names that lead to a place from the root. -/
abbrev Location := List String

namespace Node

/-- The entries of a directory; other nodes have none. -/
def entries : Node → List (String × Node)
  | .directory entries => entries
  | _ => []

def isDirectory : Node → Bool
  | .directory _ => true
  | _ => false

def isLink : Node → Bool
  | .link _ => true
  | _ => false

/-- The node at a place. -/
def node? (node : Node) : Location → Option Node
  | [] => some node
  | name :: rest =>
      match node with
      | .directory entries => (OrderedMap.find? entries name).bind fun child => child.node? rest
      | _ => none

/-- Puts a node at a place whose directory exists; anywhere else nothing changes. -/
def put (node : Node) (location : Location) (value : Node) : Node :=
  match location with
  | [] => value
  | [name] =>
      match node with
      | .directory entries => .directory (OrderedMap.put entries name value)
      | other => other
  | name :: rest =>
      match node with
      | .directory entries =>
          match OrderedMap.find? entries name with
          | some child => .directory (OrderedMap.put entries name (child.put rest value))
          | none => .directory entries
      | other => other

/-- Adds to the end of the file at a place; anywhere else nothing changes. -/
def appendTo (node : Node) (location : Location) (addition : List UInt8) : Node :=
  match node.node? location with
  | some (.file content) => node.put location (.file (content ++ addition))
  | _ => node

end Node

end ReadmePress
