import ReadmePress.OrderedMap
import ReadmePress.Text.Blank
import ReadmePress.Text.Lowercase
import ReadmePress.Text.Word

/-!
Anchors of headings. A slug is the heading in lower case with blanks as hyphens and without
punctuation; word characters of every script stay. A slug that has been given out before is
followed by a hyphen and how often that was.
-/

namespace ReadmePress

open ReadmePress.Text

/-- Characters of a heading that its slug keeps or replaces. -/
def isSlugSource (character : Char) : Bool :=
  isWord character || isBlank character || character == '-'

/-- The slug of a heading. -/
def slugChars (title : List Char) : List Char :=
  ((lowercase (trim title)).filter isSlugSource).map fun character =>
    if isBlank character then '-' else character

/-- The slug of a heading. -/
def slugify (title : String) : String := String.ofList (slugChars title.toList)

/-- A line of a table of contents. -/
structure TocEntry where
  title : String
  anchor : String
  deriving DecidableEq, Repr

namespace TocEntry

/-- Entries for titles after which the slugs in `given` have been given out so often. -/
def ofTitlesAfter (given : OrderedMap String Nat) : List String → List TocEntry
  | [] => []
  | title :: rest =>
      let slug := slugify title
      let count := (OrderedMap.find? given slug).getD 0
      let anchor := if count = 0 then slug else slug ++ "-" ++ toString count
      { title := title, anchor := anchor }
        :: ofTitlesAfter (OrderedMap.put given slug (count + 1)) rest

def ofTitles (titles : List String) : List TocEntry := ofTitlesAfter [] titles

end TocEntry

end ReadmePress
