import ReadmePress.Text.Lines

/-!
Paths as they are written. A path is normalised on reading only in so far as this cannot change
what it names: empty components and single dots go, double dots stay, and exactly two leading
slashes are kept apart from one.
-/

namespace ReadmePress

open ReadmePress.Text

/-- What a path starts from. -/
inductive PathRoot where
  | relative
  | absolute
  /-- Two leading slashes. -/
  | doubled
  deriving DecidableEq, Repr

structure Path where
  root : PathRoot
  components : List String
  deriving DecidableEq, Repr

namespace Path

/-- The components between slashes, those that name nothing left out. -/
def componentsOf (text : List Char) : List String :=
  ((split '/' text).map String.ofList).filter fun component =>
    component != "" && component != "."

/-- What the leading slashes mean: one or more than two are the root. -/
def rootOf : List Char → PathRoot
  | '/' :: '/' :: '/' :: _ => .absolute
  | '/' :: '/' :: _ => .doubled
  | '/' :: _ => .absolute
  | _ => .relative

/-- Reads a path. -/
def ofString (text : String) : Path :=
  { root := rootOf text.toList, components := componentsOf text.toList }

/-- The leading slashes. -/
def rootText : PathRoot → String
  | .relative => ""
  | .absolute => "/"
  | .doubled => "//"

/-- Writes a path; the empty relative path is a dot. -/
def text (path : Path) : String :=
  if path.root = .relative && path.components.isEmpty then "."
  else rootText path.root ++ String.intercalate "/" path.components

/-- The place of a directory whose components are known. -/
def ofLocation (location : List String) : Path :=
  { root := .absolute, components := location }

def isAbsolute (path : Path) : Bool := path.root != .relative

/-- The path of `inner` seen from `outer`. -/
def append (outer inner : Path) : Path :=
  if inner.isAbsolute then inner
  else { root := outer.root, components := outer.components ++ inner.components }

instance : Append Path := ⟨append⟩

/-- The path of an entry whose name is one component. -/
def child (directory : Path) (name : String) : Path :=
  { directory with components := directory.components ++ [name] }

/-- All but the last component. -/
def parent (path : Path) : Path := { path with components := path.components.dropLast }

/-- The components of an absolute path with every double dot taken against the one before it;
above the root there is nothing to take it against. What it cancels is taken for a directory. -/
def withoutDoubleDots (components : List String) : List String :=
  components.foldl
    (fun kept component => if component = ".." then kept.dropLast else kept ++ [component]) []

/-- The last component, or nothing. -/
def name (path : Path) : String := path.components.getLast?.getD ""

end Path

end ReadmePress
