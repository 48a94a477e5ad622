import ReadmePress.Facts.Options

/-!
The facts that a document is written from.
-/

namespace ReadmePress

structure FactSheet where
  name : String
  description : String
  badges : String
  options : DocumentOptions
  features : List String
  /-- Script names and their commands. -/
  scripts : Option (List (String × String))
  listing : String
  routes : List String
  environmentKeys : List String
  /-- Package names and their versions. -/
  dependencies : Option (List (String × String))
  deriving DecidableEq, Repr

namespace FactSheet

/-- A sheet that holds nothing but a name. -/
def ofName (name : String) : FactSheet :=
  { name := name
    description := ""
    badges := ""
    options := DocumentOptions.default
    features := []
    scripts := none
    listing := ""
    routes := []
    environmentKeys := []
    dependencies := none }

end FactSheet

end ReadmePress
