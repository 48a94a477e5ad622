import ReadmePress.Json.Plain
import ReadmePress.Json.Printer
import ReadmePress.Reading

/-!
The manifest of a project, `package.json`. Single fields hold any value but null, arrays and
objects, and maps hold any member; each is kept as its plain text. A field of another shape
counts as absent.
-/

namespace ReadmePress

open ReadmePress.Text

/-- A map from names to texts in the order of the file. -/
abbrev TextMap := List (WideText × WideText)

structure Manifest where
  name : Option WideText
  version : Option WideText
  description : Option WideText
  scripts : Option TextMap
  dependencies : Option TextMap
  devDependencies : Option TextMap
  license : Option WideText
  engines : Option TextMap
  deriving DecidableEq, Repr

namespace Manifest

def fileName : String := "package.json"

def pathIn (directory : Path) : Path := directory ++ Path.ofString fileName

def fieldText? : Json → Option WideText
  | .null => none
  | .array _ => none
  | .object _ => none
  | value => some value.plain

def fieldMap? : Json → Option TextMap
  | .object members => some (members.map fun (name, value) => (name, value.plain))
  | _ => none

/-- Reads the fields of an object. -/
def ofMembers (members : List (WideText × Json)) : Manifest :=
  let text := fun name => (Json.member? members name).bind fieldText?
  let map := fun name => (Json.member? members name).bind fieldMap?
  { name := text "name"
    version := text "version"
    description := text "description"
    scripts := map "scripts"
    dependencies := map "dependencies"
    devDependencies := map "devDependencies"
    license := text "license"
    engines := map "engines" }

/-- The runtime version that the project asks for. -/
def nodeEngine (manifest : Manifest) : Option WideText :=
  manifest.engines.bind fun engines => OrderedMap.find? engines (WideText.ofString "node")

def textValue (text : Option WideText) : Json := (text.map Json.string).getD .null

def mapValue (map : Option TextMap) : Json :=
  (map.map fun entries =>
    Json.object (entries.map fun (name, text) => (name, .string text))).getD .null

/-- The fields as an object, absent ones as null. -/
def summary (manifest : Manifest) : Json :=
  Json.ofMembers
    [("name", textValue manifest.name),
      ("version", textValue manifest.version),
      ("description", textValue manifest.description),
      ("scripts", mapValue manifest.scripts),
      ("dependencies", mapValue manifest.dependencies),
      ("devDependencies", mapValue manifest.devDependencies),
      ("license", textValue manifest.license),
      ("engines", mapValue manifest.engines)]

end Manifest

/-- The manifest of a directory, or nothing when there is no file that holds an object. -/
def Workspace.loadManifest (workspace : Workspace) (directory : Path) :
    Traced ReadingFault (Option Manifest) := do
  let value ← workspace.readJson (Manifest.pathIn directory)
  return (value.bind Json.members?).map Manifest.ofMembers

end ReadmePress
