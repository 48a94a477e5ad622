import ReadmePress.Proofs.Facts.Listing

/-!
Reading a listing. A line that is indented stands for a component below the line above it, and its
name follows the first connector, whatever spaces and connectors the name has itself; a line that is
not indented starts a path. So a listing gives back the paths that it was written from, as long as
none is empty, has a line feed in it, or begins with a space and looks indented itself.
-/

namespace ReadmePress

open ReadmePress.Text

namespace Listing

/-- The name in an indented line. -/
def indentedName? : List Char → Option (List Char)
  | ' ' :: rest => some ((rest.dropWhile (· == ' ')).drop connector.length)
  | _ => none

/-- The paths in lines, as components, behind the components of a path that starts above them. -/
def gather : List (List Char) → List (List Char) × List (List (List Char))
  | [] => ([], [])
  | text :: rest =>
      let (below, paths) := gather rest
      match indentedName? text with
      | some name => (name :: below, paths)
      | none => ([], (text :: below) :: paths)

/-- The paths in a listing; no path is empty. -/
def readPaths (text : String) : List String :=
  ((gather (split '\n' text.toList)).2.map fun components =>
    String.ofList (join ['/'] components)).filter (· != "")

theorem name_behind_indentation (width : Nat) (name : List Char) :
    (List.replicate width ' ' ++ (connector ++ name)).dropWhile (· == ' ') = connector ++ name := by
  rw [List.dropWhile_append_of_pos (by simp)]
  rfl

theorem indented_name_below (place : Nat) (name : List Char) :
    indentedName? (line (place + 1) name) = some name := by
  have indentation : List.replicate (2 * (place + 1)) ' ' =
      ' ' :: List.replicate (2 * place + 1) ' ' := List.replicate_succ
  rw [line, if_neg (Nat.succ_ne_zero place), indentation, List.append_assoc, List.cons_append,
    indentedName?, name_behind_indentation, List.drop_left]

theorem indented_name_flush (name : List Char) (flush : name.head? ≠ some ' ') :
    indentedName? (line 0 name) = none := by
  rw [line, if_pos rfl]
  cases name with
  | nil => rfl
  | cons first rest =>
      rw [indentedName?]
      rintro others same
      obtain ⟨rfl, -⟩ := List.cons.inj same
      exact flush rfl

/-- Lines below the first one of a path are its further components. -/
theorem gather_below (place : Nat) (components rest : List (List Char)) :
    gather (linesFrom (place + 1) components ++ rest) =
      (components ++ (gather rest).1, (gather rest).2) := by
  induction components generalizing place with
  | nil => rfl
  | cons name more induction =>
      rw [linesFrom, List.cons_append, gather, induction, indented_name_below]
      rfl

theorem gather_path (path : List Char) (rest : List (List Char))
    (flush : ∀ name ∈ (split '/' path).head?, name.head? ≠ some ' ') :
    gather (pathLines path ++ rest) =
      ([], (split '/' path ++ (gather rest).1) :: (gather rest).2) := by
  rw [pathLines]
  cases components : split '/' path with
  | nil => exact absurd components (split_ne_nil '/' path)
  | cons first more =>
      rw [components] at flush
      rw [linesFrom, List.cons_append, gather, gather_below,
        indented_name_flush first (flush first rfl)]
      rfl

/-- Paths that a listing shows as they are. -/
structure IsListable (path : String) : Prop where
  named : path ≠ ""
  oneLine : '\n' ∉ path.toList
  flush : ∀ name ∈ (pathNames path).head?, name.toList.head? ≠ some ' '

instance (path : String) : Decidable (IsListable path) :=
  decidable_of_iff (path ≠ "" ∧ '\n' ∉ path.toList ∧
      ∀ name ∈ (pathNames path).head?, name.toList.head? ≠ some ' ')
    ⟨fun ⟨named, oneLine, flush⟩ => ⟨named, oneLine, flush⟩,
      fun listable => ⟨listable.named, listable.oneLine, listable.flush⟩⟩

theorem IsListable.flush_fields (path : String) (listable : IsListable path) :
    ∀ name ∈ (split '/' path.toList).head?, name.head? ≠ some ' ' := by
  intro name isFirst
  have isName : String.ofList name ∈ (pathNames path).head? := by
    rw [pathNames, List.head?_map, ← split_eq_split_on, Option.mem_def.mp isFirst]
    rfl
  have flush := listable.flush _ isName
  rwa [String.toList_ofList] at flush

section Listable

variable (paths : List String) (listable : ∀ path ∈ paths, IsListable path)

include listable

theorem gather_paths :
    gather (pathsLines paths) = ([], paths.map fun path => split '/' path.toList) := by
  induction paths with
  | nil => rfl
  | cons path more induction =>
      have flush := (listable path List.mem_cons_self).flush_fields
      have below := induction fun other member => listable other (.tail path member)
      rw [pathsLines, List.flatMap_cons, ← pathsLines, gather_path path.toList _ flush, below,
        List.append_nil, List.map_cons]

theorem no_line_feed_in_lines : ∀ text ∈ pathsLines paths, '\n' ∉ text := by
  intro text isLine isIn
  obtain ⟨path, isPath, inPath⟩ := mem_of_paths_lines paths text '\n' (by decide) isLine isIn
  exact (listable path isPath).oneLine inPath

theorem read_rendered : readPaths (render paths) = paths := by
  have joined (path : String) : String.ofList (join ['/'] (split '/' path.toList)) = path := by
    rw [join_split, String.ofList_toList]
  cases paths with
  -- No paths are written as one empty line, which is that of the empty path.
  | nil => decide
  | cons first more =>
      have someLine := paths_lines_some (first :: more) (List.cons_ne_nil first more)
      have lines : split '\n' (render (first :: more)).toList = pathsLines (first :: more) := by
        rw [render_eq, split_eq_split_on]
        exact List.splitOn_intercalate '\n' (no_line_feed_in_lines _ listable) someLine
      rw [readPaths, lines, gather_paths _ listable, List.map_map]
      simp only [Function.comp_def, joined, List.map_id']
      rw [List.filter_eq_self]
      exact fun path member => bne_iff_ne.mpr (listable path member).named

end Listable

/-- A listing can be read: it gives back the paths that it was written from, so no two lists of such
paths are written alike. -/
theorem listing_reads_back (paths : List String) (listable : ∀ path ∈ paths, IsListable path) :
    readPaths (render paths) = paths ∧
      ∀ other, (∀ path ∈ other, IsListable path) → render other = render paths → other = paths := by
  refine ⟨read_rendered paths listable, ?_⟩
  intro other otherListable same
  calc
    other = readPaths (render other) := (read_rendered other otherListable).symm
    _ = readPaths (render paths) := congrArg readPaths same
    _ = paths := read_rendered paths listable

/-- Names that look like indented lines themselves, and an empty first component. -/
def connectorPaths : List String := ["a/  └─ b", "└─ b", "/ └─ c/"]

theorem connector_paths_read_back :
    (∀ path ∈ connectorPaths, IsListable path) ∧
      render connectorPaths = "a\n  └─   └─ b\n└─ b\n\n  └─  └─ c\n    └─ " ∧
      readPaths "a\n  └─   └─ b\n└─ b\n\n  └─  └─ c\n    └─ " = connectorPaths := by
  have listable : ∀ path ∈ connectorPaths, IsListable path := by decide +kernel
  have written : render connectorPaths = "a\n  └─   └─ b\n└─ b\n\n  └─  └─ c\n    └─ " := by
    decide +kernel
  have readBack := (listing_reads_back _ listable).1
  rw [written] at readBack
  exact ⟨listable, written, readBack⟩

-- A first component that begins with a space looks like a component below the path above it.
example : render ["a", "  └─ b"] = render ["a/b"] := by
  decide +kernel

end Listing

end ReadmePress
