import ReadmePress.Document.Layout
import ReadmePress.Facts.Collection
import ReadmePress.FileSystem.Writing
import ReadmePress.Tools.Arguments

/-!
What the tools do. Three of them only read; the fourth writes, and only when the writing is
confirmed, so that nothing else can change a file.
-/

namespace ReadmePress

open ReadmePress.Text

/-- What an operation comes to: its outcome with its records, and the tree of files after it. -/
structure Effect (Value : Type) where
  traced : Traced Failure Value
  files : Node

namespace Workspace

/-- The directory that is asked for, or the working directory. -/
def directoryOr (workspace : Workspace) (directory : Option String) : Path :=
  (directory.map Path.ofString).getD (Path.ofLocation workspace.workingDirectory)

def summaryText (manifest : Manifest) : Traced Failure String :=
  let text := Json.render manifest.summary
  match text.toString? with
  | some plain => return plain
  | none => Traced.fail (.illFormed text)

/-- The source of records about operations. -/
def operationsSource : String := "operations"

/-- Summarises the manifest of a directory. -/
def detect (workspace : Workspace) (arguments : DetectArguments) : Traced Failure String := do
  let directory := workspace.directoryOr arguments.directory
  let file := Manifest.pathIn directory
  if !workspace.fileExists file then return "未找到 " ++ file.text
  else
    match ← (workspace.loadManifest directory).mapFault .ofReading with
    | none => do
        Traced.record .warning operationsSource
          (WideText.ofString ("Could not parse " ++ file.text))
        return "无法解析 " ++ file.text
    | some manifest => summaryText manifest

/-- The full document of facts that hold lone surrogates. Writing it only puts texts one after the
other, trims blanks and tells lines apart, so that surrogates may be veiled for as long. -/
def wideDocument (facts : WideFacts) : WideText :=
  WideText.unveil (fullDocument facts.veiled).toList

/-- The full document of collected facts. It is written whatever texts they hold, but a document
with lone surrogates is no result. -/
def documentOf (facts : WideFacts) : Traced Failure String :=
  match facts.sheet? with
  | some sheet => return fullDocument sheet
  | none => Traced.fail (.illFormed (wideDocument facts))

/-- The full document of a project. -/
def describe (workspace : Workspace) (arguments : FullArguments) : Traced Failure String := do
  let facts ← workspace.collectFacts (workspace.directoryOr arguments.directory)
    { name := arguments.name
      description := arguments.description
      extraFeatures := arguments.extraFeatures.getD []
      options := arguments.options
      settings := none }
  documentOf facts

/-- The longest part of a content that is shown instead of being written. -/
def previewLimit : Nat := 500

def preview (content : String) : String :=
  "安全提示：未设置 confirm=true，不写入。预览：\n"
    ++ String.ofList (content.toList.take previewLimit)

/-- The path to write to; a relative one starts from a directory. -/
def writingTarget (directory : Path) (path : String) : Path :=
  let target := Path.ofString path
  if target.isAbsolute then target else directory ++ target

/-- Writes a content if that is confirmed, and shows its start otherwise. -/
def writeFile (workspace : Workspace) (directory : Path) (arguments : WriteArguments) :
    Effect String :=
  if !arguments.confirm then
    { traced := Traced.pure (preview arguments.content), files := workspace.files }
  else
    let target := writingTarget directory arguments.path
    let change := workspace.writeText target arguments.content
    let traced : Traced Failure String := do
      let count ← Traced.ofExcept (change.outcome.mapError .file)
      Traced.record .info operationsSource
        (WideText.ofString ("Wrote " ++ toString count ++ " bytes to " ++ target.text))
      return "已写入：" ++ target.text ++ "（" ++ toString count ++ " bytes）"
    { traced := traced, files := change.files }

end Workspace

def shortDocumentOf (arguments : ShortArguments) : String :=
  shortDocument arguments.name (arguments.description.getD "") (arguments.features.getD [])

end ReadmePress
