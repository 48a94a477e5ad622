import ReadmePress.Facts.Badges
import ReadmePress.Facts.Listing
import ReadmePress.Facts.Settings
import ReadmePress.Tools.Issue

/-!
Why an operation fails. The program itself reports failures of the file system and arguments
that are not valid; what else can go wrong is passed on to its caller.
-/

namespace ReadmePress

open ReadmePress.Text

inductive Failure where
  | file (fault : FileFault)
  | notUtf8 (error : Utf8Error)
  | canonical (fault : CanonicalFault)
  | settings (fault : SettingsFault)
  /-- JSON nested too deep. -/
  | tooDeep
  | options (fault : OptionsFault)
  | listing (fault : ListingFault)
  | unencodable (text : UnencodableText)
  /-- A value of this kind with issues. -/
  | invalid (kind : String) (issues : List Issue)
  deriving Repr

namespace Failure

def ofReading : ReadingFault → Failure
  | .file fault => .file fault
  | .tooDeep => .tooDeep

def ofListing : ListingFault → Failure
  | .file fault => .file fault
  | fault => .listing fault

/-- A resulting text that holds lone surrogates. -/
def illFormed (text : WideText) : Failure :=
  .invalid "TextContent"
    [{ location := [.field "text"], kind := .illFormedText, input := .string text }]

/-- The refusal of the file system that a failure comes from. -/
def refusal? : Failure → Option FileFault
  | .file (.refused refusal path) => some (.refused refusal path)
  | .settings (.file (.refused refusal path)) => some (.refused refusal path)
  | _ => none

end Failure

end ReadmePress
