import ReadmePress.Facts.Manifest
import ReadmePress.Text.Encoding
import ReadmePress.Text.Percent

/-!
The line of badges under the title: license, runtime and typing, each only where the project
shows it. Labels are percent-encoded, so that a badge holds no blank and the line can be taken
apart again.
-/

namespace ReadmePress

open ReadmePress.Text

structure BadgeFacts where
  license : Option WideText
  node : Option WideText
  typescript : Bool
  deriving DecidableEq, Repr

/-- The labels of badges that can be written. -/
structure BadgeLabels where
  license : Option String
  node : Option String
  typescript : Bool
  deriving DecidableEq, Repr

namespace BadgeLabels

/-- An address part with its encoded label in the middle. -/
def badge (opening label closing : String) : String :=
  opening ++ String.ofList (percentEncode label.toList) ++ closing

def licenseOpening : String := "[![License](https://img.shields.io/badge/License-"

def licenseClosing : String := "-blue.svg)](./LICENSE)"

def nodeOpening : String := "![Node](https://img.shields.io/badge/node-"

def nodeClosing : String := "-brightgreen)"

def typescriptBadge : String :=
  "![TypeScript](https://img.shields.io/badge/TypeScript-ready-informational)"

/-- The badges that are shown; an empty label shows none. -/
def badges (labels : BadgeLabels) : List String :=
  let shown := fun (label : Option String) => (label.filter (· != "")).toList
  ((shown labels.license).map fun label => badge licenseOpening label licenseClosing)
    ++ ((shown labels.node).map fun label => badge nodeOpening label nodeClosing)
    ++ (if labels.typescript then [typescriptBadge] else [])

def line (labels : BadgeLabels) : String := String.intercalate " " labels.badges

end BadgeLabels

namespace BadgeFacts

/-- Any of these files shows that the project has a license. -/
def licenseFiles : List String := ["LICENSE", "LICENSE.md", "LICENSE.txt"]

/-- This file shows that the project is typed. -/
def typingFile : String := "tsconfig.json"

/-- What the files of a directory and its manifest show. A project with a license file whose
manifest names no license is simply licensed. -/
def ofDirectory (workspace : Workspace) (directory : Path) (manifest : Option Manifest) :
    BadgeFacts :=
  let present := fun name => workspace.fileExists (directory ++ Path.ofString name)
  let named := ((manifest.bind (·.license)).filter (!·.isEmpty)).getD
    (WideText.ofString "License")
  { license := if licenseFiles.any present then some named else none
    node := manifest.bind (·.nodeEngine)
    typescript := present typingFile }

/-- A label as it is to be encoded. -/
def plainLabel : Option WideText → Except UnencodableText (Option String)
  | none => .ok none
  | some text => text.encodable.map fun characters => some (String.ofList characters)

/-- The labels in the order in which they are encoded. The first one that has no UTF-8 form is
refused. -/
def labels (facts : BadgeFacts) : Except UnencodableText BadgeLabels := do
  let license ← plainLabel facts.license
  let node ← plainLabel facts.node
  .ok { license := license, node := node, typescript := facts.typescript }

/-- The line of badges. -/
def line (facts : BadgeFacts) : Except UnencodableText String := facts.labels.map (·.line)

end BadgeFacts

end ReadmePress
