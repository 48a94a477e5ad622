/-!
The languages that a document can be written in.
-/

namespace ReadmePress

inductive Language where
  | chinese
  | english
  deriving DecidableEq, Repr

namespace Language

/-- Every language, the default first. -/
def all : List Language := [.chinese, .english]

def code : Language → String
  | .chinese => "zh"
  | .english => "en"

def ofCode? (code : String) : Option Language := all.find? fun language => language.code = code

theorem ofCode?_code (language : Language) : ofCode? language.code = some language := by
  cases language <;> decide

end Language

end ReadmePress
