import ReadmePress.Document.Anchors
import ReadmePress.Document.Phrases
import ReadmePress.Document.Tidy
import ReadmePress.Facts.Sheet
import ReadmePress.SortedSet
import ReadmePress.Text.Substring

/-!
The two documents. Both are first written with a slot where the description goes, then tidied,
and only then the description is put into every slot, so that it appears exactly as it was given
and nothing in it can change the text around it.

The full document has every section whatever the facts; a section without facts has a phrase in
their place.
-/

namespace ReadmePress

open ReadmePress.Text

/-- What stands for the description while the rest of the document is tidied. -/
def descriptionSlot : String := "\x00readmegen:description\x00"

/-- Tidies a document and fills its slots. -/
def finishDocument (draft description : String) : String :=
  String.ofList
    (replace descriptionSlot.toList description.toList (Tidy.tidyChars draft.toList))

/-- The slot, unless there is no description. -/
def slotFor (description : String) : String := if description = "" then "" else descriptionSlot

/-- Each text as an item of a list. -/
def listItems (texts : List String) : String :=
  String.join (texts.map fun text => "- " ++ text ++ "\n")

/-- A list, or a phrase in its place when it is empty. -/
def listOr (phrase : String) (texts : List String) : String :=
  listItems (if texts.isEmpty then [phrase] else texts)

/-- The heading of a section after a blank line. -/
def sectionHeading (title : String) : String := "\n## " ++ title ++ "\n"

/-- Text in a code fence after a blank line. -/
def codeBlock (info text : String) : String :=
  "\n" ++ "```" ++ info ++ "\n" ++ text ++ "\n" ++ "```" ++ "\n"

/-- The short document: title, description and features. -/
def shortDraft (name description : String) (features : List String) : String :=
  "# " ++ name ++ "\n\n" ++ slotFor description ++ "\n" ++ sectionHeading shortFeaturesTitle
    ++ listItems (if features.isEmpty then [shortDefaultFeature] else features)

def shortDocument (name description : String) (features : List String) : String :=
  finishDocument (shortDraft name description features) description

def scriptLines (scripts : List (String × String)) : String :=
  String.intercalate "\n"
    (scripts.map fun (name, command) => "npm run " ++ name ++ "  # " ++ command)

/-- The lines of the scripts, or the phrase for none. -/
def scriptText (scripts : Option (List (String × String))) (language : Language) : String :=
  match scripts.getD [] with
  | [] => language.placeholders.scripts
  | first :: rest => scriptLines (first :: rest)

/-- Each dependency with its version, in the order of the names. -/
def stackLines (dependencies : Option (List (String × String))) : List String :=
  let dependencies := dependencies.getD []
  (SortedSet.ofList (OrderedMap.keys dependencies)).map fun name =>
    name ++ " " ++ (OrderedMap.find? dependencies name).getD ""

/-- The table of contents, where the options ask for one and the language has one. -/
def tocDraft (options : DocumentOptions) : String :=
  match options.language.tocTitle? with
  | some title =>
      if options.toc then
        sectionHeading title
          ++ listItems ((TocEntry.ofTitles (DocumentSection.titles options.language)).map
            fun entry => "[" ++ entry.title ++ "](#" ++ entry.anchor ++ ")")
      else ""
  | none => ""

/-- The badges after the title, where the options ask for them. -/
def badgesDraft (sheet : FactSheet) : String :=
  if sheet.options.badges && sheet.badges != "" then "\n" ++ sheet.badges ++ "\n" else ""

/-- The description, or a phrase in its place. -/
def descriptionOr (phrase : String) (sheet : FactSheet) : String :=
  if sheet.description = "" then phrase else descriptionSlot

/-- What stands under the heading of a section. -/
def sectionBody (sheet : FactSheet) : DocumentSection → String :=
  let language := sheet.options.language
  let phrases := language.placeholders
  fun
  | .intro => descriptionOr phrases.intro sheet ++ "\n"
  | .features => listItems (if sheet.features.isEmpty then phrases.features else sheet.features)
  | .quickstart => codeBlock "bash" language.quickstart
  | .scripts => codeBlock "bash" (scriptText sheet.scripts language)
  | .listing => codeBlock "" sheet.listing
  | .api => listOr phrases.routes sheet.routes
  | .environment =>
      listOr phrases.environment
        (sheet.environmentKeys.map fun key => key ++ "=" ++ phrases.environmentValue)
  | .stack => listOr phrases.stack (stackLines sheet.dependencies)
  | .license => phrases.license ++ "\n"

/-- A section with its heading. -/
def sectionDraft (sheet : FactSheet) (kind : DocumentSection) : String :=
  sectionHeading (kind.title sheet.options.language) ++ sectionBody sheet kind

/-- The full document before it is tidied. -/
def fullDraft (sheet : FactSheet) : String :=
  "# " ++ sheet.name ++ "\n" ++ badgesDraft sheet ++ "\n"
    ++ descriptionOr sheet.options.language.placeholders.description sheet ++ "\n"
    ++ tocDraft sheet.options
    ++ String.join (DocumentSection.all.map (sectionDraft sheet))

def fullDocument (sheet : FactSheet) : String :=
  finishDocument (fullDraft sheet) sheet.description

end ReadmePress
