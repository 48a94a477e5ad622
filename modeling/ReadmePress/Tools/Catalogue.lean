import ReadmePress.Tools.Members
import ReadmePress.Tools.Operation

/-!
The catalogue of tools: their names, what they say of themselves, the form of their arguments,
and their invocation on arguments of any form.
-/

namespace ReadmePress

inductive Tool where
  | detect
  | short
  | write
  | full
  deriving DecidableEq, Repr

namespace Tool

/-- Every tool, in the order in which they are listed. -/
def all : List Tool := [.detect, .short, .write, .full]

def name : Tool → String
  | .detect => "detectRepo"
  | .short => "generateReadme"
  | .write => "writeFile"
  | .full => "generateReadmePro"

def ofName? (name : String) : Option Tool := all.find? fun tool => tool.name = name

def title : Tool → String
  | .detect => "Detect repository"
  | .short => "Generate README (read-only)"
  | .write => "Write file (requires confirmation)"
  | .full => "Generate README (pro)"

def description : Tool → String
  | .detect => "Read package.json in the given directory and return its key fields."
  | .short => "Render README markdown from the supplied project details."
  | .write => "Write to disk only when confirm=true; otherwise return a preview."
  | .full =>
      "Scan a directory and render a complete GitHub-style README with badges, "
        ++ "table of contents, scripts, structure, routes, environment variables and stack."

def argumentsTitle : Tool → String
  | .detect => "DetectRepoArgs"
  | .short => "GenerateReadmeArgs"
  | .write => "WriteFileArgs"
  | .full => "GenerateReadmeProArgs"

/-! The form of arguments -/

/-- The form of values of a simple kind. -/
def formOf (kind : String) (more : List (String × Json)) : Json :=
  Json.ofMembers (more ++ [("type", Json.ofString kind)])

def textForm : Json := formOf "string" []

def listForm : Json := formOf "array" [("items", textForm)]

def truthForm : Json := formOf "boolean" []

def depthForm : Json :=
  formOf "integer" [("maximum", .integer greatestDepth), ("minimum", .integer leastDepth)]

def languageForm : Json :=
  formOf "string"
    [("enum", .array (Language.all.map fun language => Json.ofString language.code))]

/-- An argument that may be left out or null. -/
def optionalForm (title : String) (form : Json) : Json :=
  Json.ofMembers
    [("anyOf", .array [form, formOf "null" []]), ("default", .null),
      ("title", Json.ofString title)]

/-- A text that is not empty and must be given. -/
def requiredForm (title : String) : Json :=
  formOf "string" [("minLength", .integer 1), ("title", Json.ofString title)]

/-- The arguments of a tool by their public names. -/
def argumentForms : Tool → List (String × Json)
  | .detect => [("dir", optionalForm "Dir" textForm)]
  | .short =>
      [("name", requiredForm "Name"), ("description", optionalForm "Description" textForm),
        ("features", optionalForm "Features" listForm)]
  | .write =>
      [("filePath", requiredForm "Filepath"), ("content", requiredForm "Content"),
        ("confirm",
          formOf "boolean" [("default", .bool false), ("title", Json.ofString "Confirm")])]
  | .full =>
      [("dir", optionalForm "Dir" textForm), ("name", optionalForm "Name" textForm),
        ("description", optionalForm "Description" textForm),
        ("extraFeatures", optionalForm "Extrafeatures" listForm),
        ("addBadges", optionalForm "Addbadges" truthForm),
        ("includeTOC", optionalForm "Includetoc" truthForm),
        ("maxTreeDepth", optionalForm "Maxtreedepth" depthForm),
        ("language", optionalForm "Language" languageForm)]

/-- The arguments that must be given. -/
def requiredNames : Tool → List String
  | .detect => []
  | .short => ["name"]
  | .write => ["filePath", "content"]
  | .full => []

/-- The form of the arguments of a tool. -/
def schema (tool : Tool) : Json :=
  let required :=
    match tool.requiredNames with
    | [] => []
    | names => [("required", Json.array (names.map Json.ofString))]
  Json.ofMembers
    ([("properties", Json.ofMembers tool.argumentForms)] ++ required
      ++ [("title", Json.ofString tool.argumentsTitle), ("type", Json.ofString "object")])

/-- What a tool says of itself. -/
def descriptor (tool : Tool) : Json :=
  Json.ofMembers
    [("name", Json.ofString tool.name), ("title", Json.ofString tool.title),
      ("description", Json.ofString tool.description), ("inputSchema", tool.schema)]

/-- The version of the program. -/
def version : String := "0.2.0"

/-! Invocation -/

/-- Arguments of a tool as a failure when they are not valid. -/
def checked (tool : Tool) {Value : Type} (arguments : Validated Value) :
    Except Failure Value :=
  arguments.mapError (.invalid tool.argumentsTitle)

/-- An operation on valid arguments that changes no file. -/
def reading (workspace : Workspace) (tool : Tool) {Value : Type} (arguments : Validated Value)
    (run : Value → Traced Failure String) : Effect String :=
  { traced := (Traced.ofExcept (tool.checked arguments)).bind run, files := workspace.files }

/-- Invokes a tool. Nothing is read or written unless the arguments are valid. -/
def invoke (workspace : Workspace) (tool : Tool) (members : Members) : Effect String :=
  match tool with
  | .detect => tool.reading workspace (DetectArguments.read members) workspace.detect
  | .short =>
      tool.reading workspace (ShortArguments.read members) fun arguments =>
        Traced.pure (shortDocumentOf arguments)
  | .full => tool.reading workspace (FullArguments.read members) workspace.describe
  | .write =>
      match tool.checked (WriteArguments.read members) with
      | .error failure => { traced := Traced.fail failure, files := workspace.files }
      | .ok arguments =>
          workspace.writeFile (Path.ofLocation workspace.workingDirectory) arguments

end Tool

end ReadmePress
