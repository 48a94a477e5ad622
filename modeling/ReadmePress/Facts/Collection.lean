import ReadmePress.Facts.EnvironmentKeys
import ReadmePress.Facts.Features
import ReadmePress.Facts.WideFacts
import ReadmePress.Failure

/-!
Collecting the facts about a project: from its settings, its manifest, the names of its files
and its sources. What is asked for explicitly wins over what is found.
-/

namespace ReadmePress

open ReadmePress.Text

structure FactsRequest where
  name : Option String
  description : Option String
  extraFeatures : List String
  options : OptionRequest
  /-- Settings to use in place of those of the directory. -/
  settings : Option Settings

namespace FactsRequest

/-- Nothing is asked for explicitly. -/
def none : FactsRequest :=
  { name := .none
    description := .none
    extraFeatures := []
    options := OptionRequest.none
    settings := .none }

end FactsRequest

namespace Manifest

/-- The names of the packages that a project depends on. Names that are no text are no names of
packages. -/
def packages (manifest : Option Manifest) : List String :=
  ((manifest.bind (·.dependencies)).getD []).filterMap fun entry => entry.1.toString?

end Manifest

namespace Workspace

/-- The source of records about facts. -/
def factsSource : String := "facts"

/-- The name of a project: the explicit one, that of the manifest, or that of the directory. -/
def projectName (workspace : Workspace) (explicit : Option String) (manifest : Option Manifest)
    (directory : Path) : Except CanonicalFault WideText :=
  match explicit, manifest.bind (·.name) with
  | some name, _ => .ok (WideText.ofString name)
  | none, some name => .ok name
  | none, none =>
      (workspace.canonical directory).map fun path => WideText.ofString path.name

def settingsFor (workspace : Workspace) (directory : Path) :
    Option Settings → Traced Failure Settings
  | some settings => return settings
  | none => (workspace.directorySettings directory).mapFault .settings

/-- The manifest of a directory; a record tells when there is none. -/
def manifestFor (workspace : Workspace) (directory : Path) :
    Traced Failure (Option Manifest) := do
  let manifest ← (workspace.loadManifest directory).mapFault .ofReading
  if manifest.isNone then
    Traced.record .debug factsSource
      (WideText.ofString ("No usable package.json in " ++ directory.text))
  return manifest

def badgeLine (workspace : Workspace) (directory : Path) (manifest : Option Manifest) :
    Except UnencodableText String :=
  (BadgeFacts.ofDirectory workspace directory manifest).line

/-- Collects the facts about a directory. -/
def collectFacts (workspace : Workspace) (directory : Path) (request : FactsRequest) :
    Traced Failure WideFacts := do
  let settings ← workspace.settingsFor directory request.settings
  let manifest ← workspace.manifestFor directory
  let options ← Traced.ofExcept
    ((DocumentOptions.ofRequest (request.options.orElse settings.options)).mapError .options)
  let badges ← Traced.ofExcept <|
    if options.badges then (workspace.badgeLine directory manifest).mapError .unencodable
    else .ok ""
  let detected := detectFeatures (Manifest.packages manifest) options.language
  let extra := request.extraFeatures.map WideText.ofString ++ settings.extraFeatures
  let features := mergeFeatures (detected.map WideText.ofString) extra
  let exclusions := settings.exclusions.filterMap WideText.toString?
  let name ← Traced.ofExcept
    ((workspace.projectName request.name manifest directory).mapError .canonical)
  let listing ← Traced.ofExcept
    ((workspace.listDirectory directory options.depth exclusions).mapError .ofListing)
  let routes ← (workspace.collectRoutes directory exclusions).mapFault .ofReading
  let environmentKeys ←
    (workspace.collectEnvironmentKeys directory exclusions).mapFault .ofReading
  Traced.record .info factsSource
    (WideText.ofString "Collected facts for " ++ name
      ++ WideText.ofString
        (": " ++ toString features.length ++ " features, " ++ toString routes.length
          ++ " routes, " ++ toString environmentKeys.length ++ " env keys"))
  return {
    name := name
    description := request.description.getD ""
    badges := badges
    options := options
    features := features
    scripts := manifest.bind (·.scripts)
    listing := listing
    routes := routes
    environmentKeys := environmentKeys
    dependencies := manifest.bind (·.dependencies) }

end Workspace

end ReadmePress
