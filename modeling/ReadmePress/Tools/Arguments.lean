import ReadmePress.Facts.Options
import ReadmePress.Tools.Reader

/-!
The arguments of the four tools. Arguments come as an object; a member may have the public name
of its argument or the inner one, and the public one wins. Members of other names do not matter.
-/

namespace ReadmePress

open ReadmePress.Text

/-- The members of an arguments object. -/
abbrev Members := List (WideText × Json)

/-- An argument and its names. -/
structure Argument where
  publicName : String
  innerName : String

namespace Argument

/-- An argument with one name. -/
def ofName (name : String) : Argument := { publicName := name, innerName := name }

/-- The value of an argument, and the name that it was given under. -/
def given? (argument : Argument) (members : Members) : Option (String × Json) :=
  match Json.member? members argument.publicName with
  | some value => some (argument.publicName, value)
  | none =>
      (Json.member? members argument.innerName).map fun value => (argument.innerName, value)

variable {Value : Type}

/-- An argument that must be given. -/
def required (argument : Argument) (reader : Reader Value) (members : Members) :
    Validated Value :=
  match argument.given? members with
  | some (name, value) => Validated.within (.field name) (reader value)
  | none =>
      Validated.within (.field argument.publicName)
        (Validated.refuse .missing (.object members))

def withDefault (argument : Argument) (default : Value) (reader : Reader Value)
    (members : Members) : Validated Value :=
  match argument.given? members with
  | some (name, value) => Validated.within (.field name) (reader value)
  | none => .ok default

/-- An argument that may be left out or null. -/
def optional (argument : Argument) (reader : Reader Value) (members : Members) :
    Validated (Option Value) :=
  argument.withDefault none (Reader.optional reader) members

end Argument

/-- The directory whose manifest is summarised. -/
structure DetectArguments where
  directory : Option String
  deriving DecidableEq, Repr

namespace DetectArguments

def read (members : Members) : Validated DetectArguments :=
  ((Argument.ofName "dir").optional (Reader.text 0) members).map DetectArguments.mk

end DetectArguments

/-- What the short document is written from. -/
structure ShortArguments where
  name : String
  description : Option String
  features : Option (List String)
  deriving DecidableEq, Repr

namespace ShortArguments

def read (members : Members) : Validated ShortArguments :=
  let name := (Argument.ofName "name").required (Reader.text 1) members
  let description := (Argument.ofName "description").optional (Reader.text 0) members
  let features :=
    (Argument.ofName "features").optional (Reader.list (Reader.text 0)) members
  match name, description, features with
  | .ok name, .ok description, .ok features =>
      .ok { name := name, description := description, features := features }
  | _, _, _ =>
      .error (Validated.issues name ++ Validated.issues description
        ++ Validated.issues features)

end ShortArguments

/-- What is written where, and whether it is to be written at all. -/
structure WriteArguments where
  path : String
  content : String
  confirm : Bool
  deriving DecidableEq, Repr

namespace WriteArguments

def read (members : Members) : Validated WriteArguments :=
  let path :=
    (Argument.mk "filePath" "file_path").required (Reader.text 1) members
  let content := (Argument.ofName "content").required (Reader.text 1) members
  let confirm := (Argument.ofName "confirm").withDefault false Reader.truth members
  match path, content, confirm with
  | .ok path, .ok content, .ok confirm =>
      .ok { path := path, content := content, confirm := confirm }
  | _, _, _ =>
      .error (Validated.issues path ++ Validated.issues content ++ Validated.issues confirm)

end WriteArguments

/-- The project whose full document is written, and what is asked for explicitly. -/
structure FullArguments where
  directory : Option String
  name : Option String
  description : Option String
  extraFeatures : Option (List String)
  options : OptionRequest
  deriving DecidableEq, Repr

namespace FullArguments

def read (members : Members) : Validated FullArguments :=
  let text := Reader.text 0
  let directory := (Argument.ofName "dir").optional text members
  let name := (Argument.ofName "name").optional text members
  let description := (Argument.ofName "description").optional text members
  let extraFeatures :=
    (Argument.mk "extraFeatures" "extra_features").optional (Reader.list text) members
  let badges := (Argument.mk "addBadges" "add_badges").optional Reader.truth members
  let toc := (Argument.mk "includeTOC" "include_toc").optional Reader.truth members
  let depth :=
    (Argument.mk "maxTreeDepth" "max_tree_depth").optional
      (Reader.integer leastDepth greatestDepth) members
  let language :=
    (Argument.ofName "language").optional (Reader.choice (Language.all.map Language.code))
      members
  match directory, name, description, extraFeatures, badges, toc, depth, language with
  | .ok directory, .ok name, .ok description, .ok extraFeatures, .ok badges, .ok toc,
    .ok depth, .ok language =>
      .ok
        { directory := directory
          name := name
          description := description
          extraFeatures := extraFeatures
          options := { badges := badges, toc := toc, depth := depth, language := language } }
  | _, _, _, _, _, _, _, _ =>
      .error (Validated.issues directory ++ Validated.issues name
        ++ Validated.issues description ++ Validated.issues extraFeatures
        ++ Validated.issues badges ++ Validated.issues toc ++ Validated.issues depth
        ++ Validated.issues language)

end FullArguments

end ReadmePress
