import ReadmePress.Proofs.FileSystem.Resolution
import ReadmePress.Proofs.OrderedMap
import ReadmePress.Reading

/-!
The shape of a tree: the tree with all its files emptied. Where paths lead, what their canonical
forms are and which paths a scan lists is told by the shape alone, so writing another content
into a file changes none of it.
-/

namespace ReadmePress

namespace Node

mutual

def emptied : Node → Node
  | .file _ => .file []
  | .link target => .link target
  | .directory entries => .directory (emptiedEntries entries)

def emptiedEntries : List (String × Node) → List (String × Node)
  | [] => []
  | (name, node) :: rest => (name, emptied node) :: emptiedEntries rest

end

theorem find_emptied (entries : List (String × Node)) (name : String) :
    OrderedMap.find? (emptiedEntries entries) name =
      (OrderedMap.find? entries name).map emptied := by
  induction entries with
  | nil => rfl
  | cons entry rest induction =>
      obtain ⟨known, node⟩ := entry
      simp only [emptiedEntries, OrderedMap.find?]
      split
      · rfl
      · exact induction

theorem node_at_emptied (files : Node) (location : Location) :
    files.emptied.node? location = (files.node? location).map emptied := by
  induction location generalizing files with
  | nil => rw [node_at_root, node_at_root, Option.map_some]
  | cons name rest induction =>
      cases files with
      | file content => rfl
      | link target => rfl
      | directory entries =>
          rw [emptied]
          simp only [node?, find_emptied]
          cases OrderedMap.find? entries name with
          | none => rfl
          | some child => exact induction child

theorem entry_of_emptied (files : Node) : files.emptied.entry = files.entry.outline := by
  cases files <;> rfl

theorem entry_at_emptied (files : Node) (location : Location) :
    files.emptied.entryAt? location = (files.entryAt? location).map Entry.outline := by
  rw [entryAt?, entryAt?, node_at_emptied, Option.map_map, Option.map_map]
  apply congrArg (fun told => Option.map told (files.node? location))
  funext node
  exact entry_of_emptied node

theorem outline_of_emptied (files : Node) : files.SameOutline files.emptied := by
  intro location
  rw [entry_at_emptied, Option.map_map]
  apply congrArg (fun told => Option.map told (files.entryAt? location))
  funext entry
  cases entry <;> rfl

/-- What holds between an entry and the node in its place, and then between their directories,
holds between a tree and the tree with a node put in the place of another one. -/
theorem put_related (related : Node → Node → Prop)
    (inDirectory : ∀ entries name child value, OrderedMap.find? entries name = some child →
      related value child →
      related (.directory (OrderedMap.put entries name value)) (.directory entries))
    (files value held : Node) (location : Location) (found : files.node? location = some held)
    (here : related value held) : related (files.put location value) files := by
  induction location generalizing files with
  | nil =>
      rw [node_at_root, Option.some.injEq] at found
      rw [put, found]
      exact here
  | cons name rest induction =>
      cases files with
      | file content => simp [node?] at found
      | link target => simp [node?] at found
      | directory entries =>
          simp only [node?] at found
          cases present : OrderedMap.find? entries name with
          | none => simp [present] at found
          | some child =>
              rw [present, Option.bind_some] at found
              cases rest with
              | nil =>
                  rw [node_at_root, Option.some.injEq] at found
                  apply inDirectory entries name child value present
                  rwa [found]
              | cons next more =>
                  simp only [put, present]
                  apply inDirectory entries name child _ present
                  exact induction child found

theorem outline_of_shape (files others : Node) (same : others.emptied = files.emptied) :
    files.SameOutline others := by
  intro location
  rw [← entry_at_emptied, ← entry_at_emptied, same]

theorem put_emptied (entries : List (String × Node)) (name : String) (child value : Node)
    (found : OrderedMap.find? entries name = some child) (same : value.emptied = child.emptied) :
    emptiedEntries (OrderedMap.put entries name value) = emptiedEntries entries := by
  induction entries with
  | nil => simp [OrderedMap.find?] at found
  | cons entry rest induction =>
      obtain ⟨known, node⟩ := entry
      simp only [OrderedMap.find?] at found
      simp only [OrderedMap.put]
      split at found
      next isHere => rw [if_pos isHere, emptiedEntries, emptiedEntries, same, Option.some.inj found]
      next notHere => rw [if_neg notHere, emptiedEntries, emptiedEntries, induction found]

/-- A node of the same shape in the place of another one leaves the shape of the tree. -/
theorem emptied_put (files value held : Node) (location : Location)
    (found : files.node? location = some held) (same : value.emptied = held.emptied) :
    (files.put location value).emptied = files.emptied := by
  apply put_related (fun after before => after.emptied = before.emptied) _ files value held location
    found same
  intro entries name child value present sameChild
  rw [emptied, emptied, put_emptied entries name child value present sameChild]

/-- A node put where it stands already changes nothing. -/
theorem put_again (files held : Node) (location : Location)
    (found : files.node? location = some held) : files.put location held = files := by
  apply put_related (fun after before => after = before) _ files held held location found rfl
  intro entries name child value present sameChild
  rw [sameChild, OrderedMap.put_found entries name child present]

end Node

namespace Selection

mutual

theorem scan_node_emptied (selection : Selection) (path : String) (node : Node) :
    selection.scanNode path node.emptied = selection.scanNode path node := by
  cases node with
  | file content => rfl
  | link target => rfl
  | directory entries =>
      rw [Node.emptied, scanNode, scanNode, scan_entries_emptied selection path entries]

theorem scan_entries_emptied (selection : Selection) (directory : String)
    (entries : List (String × Node)) :
    selection.scanEntries directory (Node.emptiedEntries entries) =
      selection.scanEntries directory entries := by
  cases entries with
  | nil => rfl
  | cons entry rest =>
      obtain ⟨name, node⟩ := entry
      rw [Node.emptiedEntries, scanEntries, scanEntries,
        scan_node_emptied selection (pathBelow directory name) node,
        scan_entries_emptied selection directory rest]

end

end Selection

namespace Workspace

/-- The same surroundings with all files empty. -/
def emptied (workspace : Workspace) : Workspace := workspace.withFiles workspace.files.emptied

theorem arrive_emptied (workspace : Workspace) (followLast : Bool) (path : Path) :
    workspace.emptied.arrive followLast path = workspace.arrive followLast path :=
  arrive_same workspace _ (Node.outline_of_emptied workspace.files) followLast path

theorem look_up_emptied (workspace : Workspace) (followLast : Bool) (path : Path) :
    workspace.emptied.lookUp followLast path =
      (workspace.lookUp followLast path).map fun place => (place.1, place.2.emptied) := by
  unfold lookUp
  rw [arrive_emptied]
  cases workspace.arrive followLast path with
  | error fault => rfl
  | ok arrival =>
      cases arrival with
      | missing directory name => rfl
      | existing location =>
          simp only [bind, Except.bind, emptied, files_with_files, Node.node_at_emptied]
          cases workspace.files.node? location <;> rfl

theorem ask_emptied (workspace : Workspace) (path : Path) (question : Node → Bool)
    (same : ∀ node : Node, question node.emptied = question node) :
    workspace.emptied.ask path question = workspace.ask path question := by
  unfold ask
  rw [look_up_emptied]
  cases workspace.lookUp true path with
  | error fault => rfl
  | ok place => exact congrArg Except.ok (same place.2)

theorem is_directory_emptied (workspace : Workspace) (path : Path) :
    workspace.emptied.isDirectory path = workspace.isDirectory path := by
  apply ask_emptied
  intro node
  cases node <;> rfl

theorem holds_emptied (workspace : Workspace) (path : Path) :
    workspace.emptied.holds path = workspace.holds path := by
  apply ask_emptied
  intro node
  rfl

theorem file_exists_emptied (workspace : Workspace) (path : Path) :
    workspace.emptied.fileExists path = workspace.fileExists path := by
  unfold fileExists
  rw [holds_emptied]

theorem link_target_emptied (workspace : Workspace) (path : Path) :
    workspace.emptied.linkTarget? path = workspace.linkTarget? path := by
  unfold linkTarget?
  rw [look_up_emptied]
  cases workspace.lookUp false path with
  | error fault => rfl
  | ok place =>
      obtain ⟨location, node⟩ := place
      cases node <;> rfl

/-- Names are resolved by the targets of links alone. -/
theorem resolve_names_emptied (workspace : Workspace) (depth : Nat) (path : PartialPath)
    (names : List String) (seen : List (PartialPath × Option PartialPath)) :
    workspace.emptied.resolveNames depth path names seen =
      workspace.resolveNames depth path names seen := by
  induction depth generalizing path names seen with
  | zero =>
      induction names generalizing path seen with
      | nil => rw [resolve_names_done, resolve_names_done]
      | cons name rest onward =>
          rw [resolveNames, resolveNames]
          simp only [link_target_emptied, onward]
  | succ depth inner =>
      induction names generalizing path seen with
      | nil => rw [resolve_names_done, resolve_names_done]
      | cons name rest onward =>
          rw [resolveNames, resolveNames]
          simp only [link_target_emptied, onward, inner]

theorem canonical_emptied (workspace : Workspace) (path : Path) :
    workspace.emptied.canonical path = workspace.canonical path := by
  have sameDirectory : workspace.emptied.workingDirectory = workspace.workingDirectory := rfl
  simp only [canonical, resolve_names_emptied]
  cases workspace.resolveNames resolutionDepth
      { fromRoot := path.isAbsolute, components := [] } path.components [] with
  | error fault => rfl
  | ok resolution =>
      simp only [bind, Except.bind, look_up_emptied, sameDirectory]
      cases workspace.lookUp true (Path.ofLocation (settle
          (if resolution.path.fromRoot then resolution.path.components
            else workspace.workingDirectory ++ resolution.path.components))) with
      | error fault => rfl
      | ok place => rfl

/-- A scan lists the same paths whatever is in the files. -/
theorem scan_emptied (workspace : Workspace) (root : Path) (selection : Selection) :
    workspace.emptied.scan root selection = workspace.scan root selection := by
  unfold scan
  rw [is_directory_emptied]
  cases workspace.isDirectory root with
  | error fault => rfl
  | ok isDirectory =>
      simp only [bind, Except.bind, look_up_emptied]
      cases isDirectory with
      | false => rfl
      | true =>
          cases workspace.lookUp true root with
          | error fault => rfl
          | ok place =>
              obtain ⟨location, node⟩ := place
              cases node with
              | file content => rfl
              | link target => rfl
              | directory entries =>
                  simp only [Except.map, Node.emptied, Node.entries,
                    Selection.scan_entries_emptied]

/-- What is told by the shape of a tree is told alike of trees of one shape. -/
theorem told_by_shape {Answer : Type} (told : Workspace → Answer)
    (blind : ∀ workspace : Workspace, told workspace.emptied = told workspace)
    (workspace : Workspace) (others : Node) (same : others.emptied = workspace.files.emptied) :
    told (workspace.withFiles others) = told workspace := by
  have sameEmptied : (workspace.withFiles others).emptied = workspace.emptied := by
    unfold emptied withFiles
    rw [same]
  rw [← blind (workspace.withFiles others), sameEmptied, blind]

section Contents

/-- What stands at a path is told by where it leads and what stands there. -/
theorem read_bytes_same (workspace : Workspace) (others : Node)
    (same : workspace.files.SameOutline others) (path : Path)
    (agree : ∀ location, workspace.arrive true path = .ok (.existing location) →
      others.entryAt? location = workspace.files.entryAt? location) :
    (workspace.withFiles others).readBytes path = workspace.readBytes path := by
  unfold readBytes lookUp
  rw [arrive_same workspace others same]
  cases leads : workspace.arrive true path with
  | error fault => rfl
  | ok arrival =>
      cases arrival with
      | missing directory name => rfl
      | existing location =>
          have entry := agree location leads
          rw [Node.entryAt?, Node.entryAt?] at entry
          simp only [bind, Except.bind, files_with_files]
          cases found : workspace.files.node? location with
          | none =>
              rw [found, Option.map_none, Option.map_eq_none_iff] at entry
              rw [entry]
          | some node =>
              rw [found, Option.map_some] at entry
              obtain ⟨other, otherFound, sameEntry⟩ := Option.map_eq_some_iff.mp entry
              rw [otherFound]
              cases node <;> cases other <;> simp_all [Node.entry]

theorem read_text_same (workspace : Workspace) (others : Node)
    (same : workspace.files.SameOutline others) (path : Path)
    (agree : ∀ location, workspace.arrive true path = .ok (.existing location) →
      others.entryAt? location = workspace.files.entryAt? location) :
    (workspace.withFiles others).readText path = workspace.readText path := by
  unfold readText
  rw [read_bytes_same workspace others same path agree]

end Contents

end Workspace

end ReadmePress
