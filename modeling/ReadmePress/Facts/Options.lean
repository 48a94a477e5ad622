import ReadmePress.Facts.Language

/-!
Presentation options. A value that is given explicitly wins over the value of the settings, and
that one over the default, each option for itself.
-/

namespace ReadmePress

/-- The depths of a directory listing. -/
def leastDepth : Int := 1

def greatestDepth : Int := 5

def isValidDepth (depth : Int) : Bool := leastDepth ≤ depth && depth ≤ greatestDepth

/-- Options as they are asked for, each of them or none. -/
structure OptionRequest where
  badges : Option Bool
  toc : Option Bool
  depth : Option Int
  language : Option String
  deriving DecidableEq, Repr

namespace OptionRequest

/-- No option is asked for. -/
def none : OptionRequest := { badges := .none, toc := .none, depth := .none, language := .none }

/-- What the first request leaves open is taken from the second. -/
def orElse (first second : OptionRequest) : OptionRequest :=
  { badges := first.badges.or second.badges
    toc := first.toc.or second.toc
    depth := first.depth.or second.depth
    language := first.language.or second.language }

end OptionRequest

/-- Why options are refused. -/
inductive OptionsFault where
  | depthOutOfRange
  | unsupportedLanguage (code : String)
  deriving DecidableEq, Repr

namespace OptionsFault

def message : OptionsFault → String
  | .depthOutOfRange => "max_tree_depth must be between 1 and 5"
  | .unsupportedLanguage code => "Unsupported language: " ++ code

end OptionsFault

/-- Options in force. -/
structure DocumentOptions where
  badges : Bool
  toc : Bool
  depth : Int
  language : Language
  deriving DecidableEq, Repr

namespace DocumentOptions

def default : DocumentOptions := { badges := true, toc := true, depth := 2, language := .chinese }

/-- The options of a request. The depth is checked before the language. -/
def ofRequest (request : OptionRequest) : Except OptionsFault DocumentOptions :=
  let depth := request.depth.getD default.depth
  let code := request.language.getD default.language.code
  if !isValidDepth depth then .error .depthOutOfRange
  else match Language.ofCode? code with
    | .none => .error (.unsupportedLanguage code)
    | some language =>
        .ok
          { badges := request.badges.getD default.badges
            toc := request.toc.getD default.toc
            depth := depth
            language := language }

end DocumentOptions

end ReadmePress
