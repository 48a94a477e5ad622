import ReadmePress.Yaml.Fault

/-!
The tokens of a YAML text. Indentation is already taken apart: the start and the end of a block
collection are tokens of their own, and so is the mark of a key that only the colon after it
shows to be one.
-/

namespace ReadmePress.Yaml

open ReadmePress.Text

/-- How a tag is written. -/
inductive TagName where
  /-- The whole tag. -/
  | verbatim (tag : String)
  /-- A handle, which a prefix is declared for, and the rest of the tag. -/
  | shorthand (handle suffix : String)
  deriving DecidableEq, Repr

/-- Directives before a document. -/
inductive Directive where
  | version (major : Int)
  | handle (handle tagPrefix : String)
  /-- A directive of another name, which means nothing. -/
  | reserved
  deriving DecidableEq, Repr

inductive Token where
  | directive (directive : Directive)
  | documentStart
  | documentEnd
  | textEnd
  | blockSequenceStart
  | blockMappingStart
  | blockEnd
  | flowSequenceStart
  | flowSequenceEnd
  | flowMappingStart
  | flowMappingEnd
  | blockEntry
  | flowEntry
  | key
  | value
  | reference (name : String)
  | anchor (name : String)
  | tag (name : TagName)
  | scalar (text : WideText) (plain : Bool)
  /-- Where the text cannot be taken apart any further. -/
  | broken (fault : Fault)
  deriving DecidableEq, Repr

end ReadmePress.Yaml
