import ReadmePress.Proofs.FileSystem.Entries
import ReadmePress.Proofs.OrderedMap

/-!
Trees as a file system can hold them: the names in one directory differ from each other, and
each of them is one component of a path.
-/

namespace ReadmePress

/-- A name that can stand between slashes. -/
def IsComponent (name : String) : Prop := name ≠ "" ∧ '/' ∉ name.toList

namespace Node

/-- Every directory gives each of its entries a name of its own, which is a component. -/
def WellFormed (files : Node) : Prop :=
  ∀ location entries, files.node? location = some (.directory entries) →
    (entries.map Prod.fst).Nodup ∧ ∀ name ∈ entries.map Prod.fst, IsComponent name

theorem entry_is_smaller (entries : List (String × Node)) (entry : String × Node)
    (member : entry ∈ entries) : sizeOf entry.2 < sizeOf (Node.directory entries) := by
  have inEntries := List.sizeOf_lt_of_mem member
  obtain ⟨name, child⟩ := entry
  simp only [Prod.mk.sizeOf_spec, directory.sizeOf_spec] at inEntries ⊢
  omega

/-- What holds of files and of links, and of every directory of whose entries it holds, holds of
every tree. -/
theorem induction_on_entries (motive : Node → Prop) (file : ∀ content, motive (.file content))
    (link : ∀ target, motive (.link target))
    (directory : ∀ entries : List (String × Node), (∀ entry ∈ entries, motive entry.2) →
      motive (.directory entries)) (files : Node) : motive files :=
  match files with
  | .file content => file content
  | .link target => link target
  | .directory entries =>
      directory entries fun entry _ =>
        induction_on_entries motive file link directory entry.2
termination_by sizeOf files
decreasing_by exact entry_is_smaller entries entry ‹_›

theorem well_formed_below (files node : Node) (location : Location)
    (wellFormed : files.WellFormed) (found : files.node? location = some node) :
    node.WellFormed := by
  intro below entries foundBelow
  apply wellFormed (location ++ below) entries
  rw [node_at_append, found]
  exact foundBelow

theorem find_iff_mem (entries : List (String × Node)) (name : String) (child : Node)
    (wellFormed : (Node.directory entries).WellFormed) :
    OrderedMap.find? entries name = some child ↔ (name, child) ∈ entries :=
  ⟨OrderedMap.mem_of_find entries name child,
    OrderedMap.find_of_mem entries name child (wellFormed [] entries rfl).1⟩

theorem entry_well_formed (entries : List (String × Node)) (name : String) (child : Node)
    (wellFormed : (Node.directory entries).WellFormed) (member : (name, child) ∈ entries) :
    IsComponent name ∧ child.WellFormed := by
  refine ⟨(wellFormed [] entries rfl).2 name (List.mem_map.mpr ⟨(name, child), member, rfl⟩), ?_⟩
  apply well_formed_below (.directory entries) child [name] wellFormed
  have found := (find_iff_mem entries name child wellFormed).mpr member
  simp [node?, found]

theorem leaf_well_formed (files : Node) (leaf : files.isDirectory = false) :
    files.WellFormed := by
  intro location entries found
  cases location with
  | nil =>
      rw [node_at_root, Option.some.injEq] at found
      simp [found, isDirectory] at leaf
  | cons name rest => cases files <;> simp_all [node?, isDirectory]

theorem directory_well_formed (entries : List (String × Node))
    (distinct : (entries.map Prod.fst).Nodup)
    (components : ∀ name ∈ entries.map Prod.fst, IsComponent name)
    (below : ∀ entry ∈ entries, entry.2.WellFormed) : (Node.directory entries).WellFormed := by
  intro location inner found
  cases location with
  | nil =>
      rw [node_at_root, Option.some.injEq, directory.injEq] at found
      subst found
      exact ⟨distinct, components⟩
  | cons name rest =>
      simp only [node?] at found
      cases present : OrderedMap.find? entries name with
      | none => simp [present] at found
      | some child =>
          simp only [present, Option.bind_some] at found
          have member := OrderedMap.mem_of_find entries name child present
          exact below (name, child) member rest inner found

/-- Every name that leads to a place is a component. -/
theorem components_of_found (files : Node) (location : Location) (wellFormed : files.WellFormed)
    (found : files.entryAt? location ≠ none) : ∀ name ∈ location, IsComponent name := by
  induction location generalizing files with
  | nil => simp
  | cons first rest induction =>
      cases files with
      | file content => simp [entryAt?, node?] at found
      | link target => simp [entryAt?, node?] at found
      | directory entries =>
          rw [entry_at_below] at found
          cases present : OrderedMap.find? entries first with
          | none => simp [present] at found
          | some child =>
              simp only [present, Option.bind_some] at found
              obtain ⟨isComponent, childWellFormed⟩ := entry_well_formed entries first child
                wellFormed (OrderedMap.mem_of_find entries first child present)
              intro name member
              rcases List.mem_cons.mp member with rfl | isLater
              · exact isComponent
              · exact induction child childWellFormed found name isLater

end Node

end ReadmePress
