import ReadmePress.Facts.Options
import ReadmePress.FileSystem.Canonical
import ReadmePress.Number.Shortest
import ReadmePress.Reading
import ReadmePress.Text.Lowercase
import ReadmePress.Yaml.Document

/-!
Settings of a project, kept in `.readmegen.yml`: default options, further features and patterns
of paths to leave out. A project without that file has the default settings.

A file that can be read but says what no project can mean is broken, and so is one that is not
readable at all. A program that only wants the settings for a document does without broken ones
and leaves a warning.
-/

namespace ReadmePress

open ReadmePress.Number ReadmePress.Text

structure Settings where
  /-- The directory that the settings are for. -/
  root : Path
  options : OptionRequest
  extraFeatures : List WideText
  exclusions : List WideText
  deriving DecidableEq, Repr

/-- Why settings cannot be had. -/
inductive SettingsFault where
  | canonical (fault : CanonicalFault)
  | file (fault : FileFault)
  | notUtf8 (fileName : String) (error : Utf8Error)
  | malformed (fileName : String)
  /-- A value in the file breaks a rule of its kind. -/
  | value (fault : Yaml.Fault)
  /-- The file holds something that is no mapping. -/
  | notMapping
  | unsupportedLanguage
  | depthOutOfRange
  /-- A number in a list of texts cannot be written. -/
  | integer (fault : IntegerFault)
  deriving DecidableEq, Repr

namespace SettingsFault

def message : SettingsFault → String
  | .canonical fault => fault.message
  | .file fault => fault.message
  | .notUtf8 fileName error => fileName ++ " is not valid UTF-8: " ++ error.message
  | .malformed fileName => "Failed to parse " ++ fileName
  | .value fault => fault.message
  | .notMapping => ".readmegen.yml must contain a mapping at the root"
  | .unsupportedLanguage => "readme.language must be one of zh, en"
  | .depthOutOfRange => "readme.max_tree_depth must be between 1 and 5"
  | .integer fault => fault.message

/-- Faults that a document does without settings for. -/
def isAbsorbed : SettingsFault → Bool
  | .file (.refused _ _) => true
  | .notUtf8 _ _ => true
  | .malformed _ => true
  | .notMapping => true
  | .unsupportedLanguage => true
  | .depthOutOfRange => true
  | _ => false

end SettingsFault

namespace Settings

def fileName : String := ".readmegen.yml"

def default (root : Path) : Settings :=
  { root := root, options := OptionRequest.none, extraFeatures := [], exclusions := [] }

/-- The text of a scalar that is a text, a number or a truth value. -/
def scalarText? : Yaml.Value → Except SettingsFault (Option WideText)
  | .text text => .ok (some text)
  | .bool value => .ok (some (WideText.ofString (if value then "True" else "False")))
  | .integer value =>
      match writeDecimal value with
      | .ok digits => .ok (some (WideText.ofChars digits))
      | .error fault => .error (.integer fault)
  | .float value => .ok (some (WideText.ofChars value.text))
  | _ => .ok none

/-- The integer of a scalar that is an integer, or a text that reads as one. -/
def integer? : Yaml.Value → Option Int
  | .integer value => some value
  | .text text => (WideText.toChars? text).bind fun characters => (readDecimal characters).toOption
  | _ => none

/-- The truth value of a scalar that is one, or of one of six words. -/
def truth? : Yaml.Value → Option Bool
  | .bool value => some value
  | .text text =>
      (WideText.toChars? text).bind fun characters =>
        let word := String.ofList (lowercase (trim characters))
        if ["true", "yes", "1"].contains word then some true
        else if ["false", "no", "0"].contains word then some false
        else none
  | _ => none

/-- The scalars of a list as texts; what is no scalar is left out. A single text is a list of
one, and bytes are a list of numbers. -/
def texts (document : Yaml.Document) (node : Option Yaml.NodeId) :
    Except SettingsFault (List WideText) :=
  match node with
  | none => .ok []
  | some id =>
      match document.value id with
      | .text text => .ok [text]
      | .bytes bytes =>
          .ok (bytes.map fun byte => WideText.ofChars (integerDigits byte.toNat))
      | .sequence => do
          let texts ← (document.items id).mapM fun item => scalarText? (document.value item)
          .ok (texts.filterMap fun text => text)
      | _ => .ok []

/-- The language of a node, if it names one. -/
def languageOf (document : Yaml.Document) (node : Option Yaml.NodeId) :
    Except SettingsFault (Option Language) := do
  let text ←
    match node with
    | none => .ok none
    | some id => scalarText? (document.value id)
  match text with
  | none => .ok none
  | some code =>
      match (WideText.toString? code).bind Language.ofCode? with
      | some language => .ok (some language)
      | none => .error .unsupportedLanguage

/-- The depth of a node, if it names one. -/
def depthOf (document : Yaml.Document) (node : Option Yaml.NodeId) :
    Except SettingsFault (Option Int) :=
  match node.bind fun id => integer? (document.value id) with
  | none => .ok none
  | some depth => if isValidDepth depth then .ok (some depth) else .error .depthOutOfRange

/-- Reads the settings for a directory from a mapping. The language is checked before the
depth. -/
def ofMapping (root : Path) (document : Yaml.Document) : Except SettingsFault Settings := do
  let block := (document.entry? document.root "readme").filter fun id =>
    document.value id == .mapping
  let member := fun name => block.bind fun id => document.entry? id name
  let truth := fun name => (member name).bind fun id => truth? (document.value id)
  let language ← languageOf document (member "language")
  let depth ← depthOf document (member "max_tree_depth")
  let extraFeatures ← texts document (member "extra_features")
  let exclusions ← texts document (document.entry? document.root "exclude_paths")
  .ok
    { root := root
      options :=
        { badges := truth "badges"
          toc := truth "toc"
          depth := depth
          language := language.map Language.code }
      extraFeatures := extraFeatures
      exclusions := exclusions }

/-- Reads the settings for a directory from the text of its file. A text that says nothing
leaves the default. -/
def ofText (root : Path) (fileName : String) (text : List Char) :
    Except SettingsFault Settings :=
  if (trim text).isEmpty then .ok (default root)
  else match Yaml.Document.ofText text with
    | .error .malformed => .error (.malformed fileName)
    | .error fault => .error (.value fault)
    | .ok none => .ok (default root)
    | .ok (some document) =>
        if document.isVoid document.root then .ok (default root)
        else match document.value document.root with
          | .mapping => ofMapping root document
          | _ => .error .notMapping

end Settings

namespace Workspace

/-- The canonical path of the settings file that a path names: itself if it has the name of such
a file, and the one in the directory of that path otherwise. -/
def settingsFile (workspace : Workspace) (path : Path) : Except CanonicalFault Path := do
  let path ← workspace.expandHome path
  if path.name = Settings.fileName then workspace.canonical path
  else workspace.canonical (path ++ Path.ofString Settings.fileName)

def loadSettings (workspace : Workspace) (path : Path) : Except SettingsFault Settings := do
  let file ← (workspace.settingsFile path).mapError .canonical
  let root ← (workspace.canonical file.parent).mapError .canonical
  if !(← (workspace.holds file).mapError .file) then .ok (Settings.default root)
  else
    let bytes ← (workspace.readBytes file).mapError .file
    match textOfBytes bytes with
    | .error error => .error (.notUtf8 file.name error)
    | .ok text => Settings.ofText root file.name text

/-- The settings of a directory, the default ones in place of broken ones. -/
def directorySettings (workspace : Workspace) (directory : Path) :
    Traced SettingsFault Settings :=
  match workspace.loadSettings directory with
  | .ok settings => return settings
  | .error fault =>
      if fault.isAbsorbed then do
        Traced.record .warning "facts"
          (WideText.ofString
            ("Ignoring configuration in " ++ directory.text ++ ": " ++ fault.message))
        return Settings.default directory
      else Traced.fail fault

end Workspace

end ReadmePress
