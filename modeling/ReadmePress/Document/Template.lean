import ReadmePress.Document.Layout
import ReadmePress.FileSystem.Workspace
import ReadmePress.Text.Blank
import ReadmePress.Text.Utf8

/-!
Templates for the short document: literal text with slots in double braces for the name, the
description and the heading of the features. A slot of any other name stays empty. A template
file in a directory of the caller's choice takes the place of the built-in layout.

This is the part of the template language that has no control in it. Statements and comments
(a brace with a per cent or number sign) stand as literal text, and a slot with any other
expression than these three names stays empty, the list of features included; the loop over the
features in the built-in layout is written out by `shortDraft`. Opening braces that nothing closes
are literal text too, where the template language refuses them.
-/

namespace ReadmePress

open ReadmePress.Text

inductive TemplatePiece where
  | literal (character : Char)
  | slot (name : String)
  deriving DecidableEq, Repr

namespace Template

/-- Splits at the first closing pair of braces. -/
def takeSlot? : List Char → Option (List Char × List Char)
  | [] => none
  | '}' :: '}' :: rest => some ([], rest)
  | character :: rest => (takeSlot? rest).map fun (name, more) => (character :: name, more)

/-- The pieces from a place on. The next `passing` characters belong to the last slot. -/
def piecesFrom : (passing : Nat) → List Char → List TemplatePiece
  | _, [] => []
  | passing + 1, _ :: rest => piecesFrom passing rest
  | 0, '{' :: rest =>
      match rest with
      | '{' :: inner =>
          match takeSlot? inner with
          | some (name, more) =>
              .slot (String.ofList (trim name)) :: piecesFrom (rest.length - more.length) rest
          | none => .literal '{' :: piecesFrom 0 rest
      | _ => .literal '{' :: piecesFrom 0 rest
  | 0, character :: rest => .literal character :: piecesFrom 0 rest

/-- Reads a template. -/
def parse (text : List Char) : List TemplatePiece := piecesFrom 0 text

/-- Writes a template with the values of its slots. -/
def render (values : List (String × String)) (template : List TemplatePiece) : String :=
  String.ofList (template.flatMap fun
    | .literal character => [character]
    | .slot name => ((OrderedMap.find? values name).getD "").toList)

/-- The name of the template file of the short document. -/
def fileName : String := "readme_basic.md.j2"

/-- The template file in a directory, if there is one. -/
def find? (workspace : Workspace) (directory : Path) :
    Except FileFault (Option (List UInt8)) :=
  match workspace.lookUp true (directory ++ Path.ofString fileName) with
  | .ok (_, .file content) => .ok (some content)
  | .error .embeddedNull => .error .embeddedNull
  | _ => .ok none

def shortDocument (template : List Char) (name description : String) : String :=
  finishDocument
    (render
      [("name", name), ("description", slotFor description),
        ("features_title", shortFeaturesTitle)]
      (parse template))
    description

end Template

end ReadmePress
