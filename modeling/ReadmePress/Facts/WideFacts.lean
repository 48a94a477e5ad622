import ReadmePress.Facts.Manifest
import ReadmePress.Facts.Sheet
import ReadmePress.Text.Veil

/-!
The facts as they are collected. Names and texts from the manifest and the settings may hold lone
surrogates; only facts without any can be written as a document.
-/

namespace ReadmePress

open ReadmePress.Text

structure WideFacts where
  name : WideText
  description : String
  badges : String
  options : DocumentOptions
  features : List WideText
  scripts : Option TextMap
  listing : String
  routes : List String
  environmentKeys : List String
  dependencies : Option TextMap
  deriving DecidableEq, Repr

namespace WideFacts

/-- An entry of a map that holds no lone surrogate. -/
def plainPair? (entry : WideText × WideText) : Option (String × String) := do
  let name ← WideText.toString? entry.1
  let value ← WideText.toString? entry.2
  some (name, value)

/-- A map that holds no lone surrogate. -/
def plainMap? : Option TextMap → Option (Option (List (String × String)))
  | none => some none
  | some entries => (entries.mapM plainPair?).map some

/-- The sheet of facts that hold no lone surrogate. -/
def sheet? (facts : WideFacts) : Option FactSheet := do
  let name ← facts.name.toString?
  let features ← facts.features.mapM WideText.toString?
  let scripts ← plainMap? facts.scripts
  let dependencies ← plainMap? facts.dependencies
  some
    { name := name
      description := facts.description
      badges := facts.badges
      options := facts.options
      features := features
      scripts := scripts
      listing := facts.listing
      routes := facts.routes
      environmentKeys := facts.environmentKeys
      dependencies := dependencies }

def veiledText (text : WideText) : String := String.ofList text.veil

def veiledString (text : String) : String := veiledText (WideText.ofString text)

def veiledMap (entries : TextMap) : List (String × String) :=
  entries.map fun entry => (veiledText entry.1, veiledText entry.2)

/-- The facts as a sheet in which surrogates are veiled. -/
def veiled (facts : WideFacts) : FactSheet :=
  { name := veiledText facts.name
    description := veiledString facts.description
    badges := veiledString facts.badges
    options := facts.options
    features := facts.features.map veiledText
    scripts := facts.scripts.map veiledMap
    listing := veiledString facts.listing
    routes := facts.routes.map veiledString
    environmentKeys := facts.environmentKeys.map veiledString
    dependencies := facts.dependencies.map veiledMap }

end WideFacts

end ReadmePress
