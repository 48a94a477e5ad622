import ReadmePress.FileSystem.Workspace

/-!
Canonical paths: absolute, without links and without double dots. Links are resolved name by
name, each remembered together with what it resolved to. A link that leads back to itself while
it is being resolved stops the resolution; the rest of the path is then kept as it is written.

A path that starts with a tilde is first read from a home directory.
-/

namespace ReadmePress

open ReadmePress.Text

/-- Why a path has no canonical form. -/
inductive CanonicalFault where
  | embeddedNull
  /-- Links that lead back to themselves. -/
  | linkLoop (path : String)
  /-- A tilde before a name that no user has. -/
  | unknownHome
  deriving DecidableEq, Repr

namespace CanonicalFault

def message : CanonicalFault → String
  | .embeddedNull => "embedded null byte"
  | .linkLoop path => "Symlink loop from " ++ quoted path
  | .unknownHome => "Could not determine home directory."

end CanonicalFault

/-- A path on the way to its canonical form, from the root or from the working directory. -/
structure PartialPath where
  fromRoot : Bool
  components : List String
  deriving DecidableEq, Repr

namespace PartialPath

/-- The directory above. Only a relative path that leads out of the working directory keeps
double dots. -/
def above (path : PartialPath) : PartialPath :=
  match path.components.getLast? with
  | none => if path.fromRoot then path else { path with components := [".."] }
  | some last =>
      if last = ".." then { path with components := path.components ++ [".."] }
      else { path with components := path.components.dropLast }

def child (path : PartialPath) (name : String) : PartialPath :=
  { path with components := path.components ++ [name] }

def toPath (path : PartialPath) : Path :=
  { root := if path.fromRoot then .absolute else .relative, components := path.components }

end PartialPath

/-- How far a resolution came. -/
structure Resolution where
  path : PartialPath
  /-- Whether no link led back to itself. -/
  complete : Bool
  /-- What links resolved to; nothing while one is being resolved. -/
  seen : List (PartialPath × Option PartialPath)

namespace Workspace

/-- The target of a link, if the path names one. -/
def linkTarget? (workspace : Workspace) (path : Path) : Except CanonicalFault (Option String) :=
  match workspace.lookUp false path with
  | .ok (_, .link target) => .ok (some target)
  | .ok _ => .ok none
  | .error .embeddedNull => .error .embeddedNull
  | .error (.refused _ _) => .ok none

/-- Resolves names from a partial path. `depth` bounds how many links may be in resolution at
the same time. -/
def resolveNames (workspace : Workspace) :
    (depth : Nat) → PartialPath → List String → List (PartialPath × Option PartialPath) →
      Except CanonicalFault Resolution
  | _, path, [], seen => .ok { path := path, complete := true, seen := seen }
  | depth, path, name :: rest, seen =>
      if name = "" || name = "." then resolveNames workspace depth path rest seen
      else if name = ".." then resolveNames workspace depth path.above rest seen
      else do
        let entry := path.child name
        match ← workspace.linkTarget? entry.toPath with
        | none => resolveNames workspace depth entry rest seen
        | some target =>
            let stopped := fun (path : PartialPath) seen =>
              Except.ok
                { path := { path with components := path.components ++ rest }
                  complete := false
                  seen := seen }
            match OrderedMap.find? seen entry with
            | some (some known) => resolveNames workspace depth known rest seen
            | some none => stopped entry seen
            | none =>
                match depth with
                | 0 => stopped entry seen
                | left + 1 =>
                    let start :=
                      if target.toList.head? = some '/' then
                        { fromRoot := true, components := [] }
                      else path
                    let inner ← resolveNames workspace left start
                      ((split '/' target.toList).map String.ofList)
                      (OrderedMap.put seen entry none)
                    if inner.complete then
                      resolveNames workspace (left + 1) inner.path rest
                        (OrderedMap.put inner.seen entry (some inner.path))
                    else stopped inner.path inner.seen
  termination_by depth _ names _ => (depth, names.length)

/-- Carries out the double dots of an absolute path by name alone. -/
def settle (components : List String) : List String :=
  components.foldl
    (fun settled name =>
      if name = "" || name = "." then settled
      else if name = ".." then settled.dropLast
      else settled ++ [name])
    []

/-- How many links may be in resolution at the same time. On a bounded stack resolution breaks off
somewhere between 900 and 1000 links, each of which leads to the next; with this limit, such a
chain is left where it is, like links that lead back to themselves. So only chains of 900 links or
more may be judged otherwise. -/
def resolutionDepth : Nat := 960

/-- The canonical form of a path, whether or not it names something. -/
def canonical (workspace : Workspace) (path : Path) : Except CanonicalFault Path := do
  let start : PartialPath := { fromRoot := path.isAbsolute, components := [] }
  let resolution ← workspace.resolveNames resolutionDepth start path.components []
  let components :=
    if resolution.path.fromRoot then resolution.path.components
    else workspace.workingDirectory ++ resolution.path.components
  let result := Path.ofLocation (settle components)
  match workspace.lookUp true result with
  | .error (.refused .tooManyLinks text) => .error (.linkLoop text)
  | .error .embeddedNull => .error .embeddedNull
  | _ => .ok result

/-- The home directory of a user; no name means the user of the run. -/
def homeOf? (workspace : Workspace) (user : String) : Option String :=
  if user = "" then some workspace.home
  else (workspace.accounts.find? fun account => account.1 = user).map (·.2)

/-- Reads a leading tilde as a home directory. -/
def expandHome (workspace : Workspace) (path : Path) : Except CanonicalFault Path :=
  match path.root, path.components with
  | .relative, first :: rest =>
      match first.toList with
      | '~' :: user =>
          if user.contains '\x00' then .error .embeddedNull
          else match workspace.homeOf? (String.ofList user) with
            | some home =>
                let home := Path.ofString home
                .ok { home with components := home.components ++ rest }
            | none => .error .unknownHome
      | _ => .ok path
  | _, _ => .ok path

end Workspace

end ReadmePress
