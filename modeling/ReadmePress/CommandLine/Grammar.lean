import ReadmePress.Text.Quoted

/-!
Grammars of command lines. An option goes by one or more names and shows help, switches
something, or takes one value; besides options there is at most one operand. What the words of
a line do is gathered in settings, whose type is up to the grammar.
-/

namespace ReadmePress

open ReadmePress.Text

/-- What is given to an option that takes a value. -/
inductive GivenValue where
  | text (value : String)
  /-- Two hyphens written as a value are taken for the end of the options, and nothing is
  left. -/
  | nothing
  deriving DecidableEq, Repr

namespace GivenValue

/-- A value that is written in the same word as its option. -/
def ofWritten (value : String) : GivenValue := if value = "--" then .nothing else .text value

end GivenValue

/-- Why a value does not suit its option. -/
inductive ValueFault where
  | notInteger (value : String)
  | notOneOf (value : String) (choices : List String)
  deriving DecidableEq, Repr

namespace ValueFault

def message : ValueFault → String
  | .notInteger value => "invalid int value: " ++ quoted value
  | .notOneOf value choices =>
      "invalid choice: " ++ quoted value ++ " (choose from "
        ++ ", ".intercalate (choices.map quoted) ++ ")"

end ValueFault

/-- What an option does. -/
inductive OptionEffect (Settings : Type) where
  | help
  | switch (update : Settings → Settings)
  | take (update : GivenValue → Settings → Except ValueFault Settings)

structure OptionRule (Settings : Type) where
  names : List String
  effect : OptionEffect Settings
  /-- Whether a line without the option is refused. -/
  required : Bool

namespace OptionRule

variable {Settings : Type}

/-- All names of an option, as reports call it. -/
def title (rule : OptionRule Settings) : String := "/".intercalate rule.names

end OptionRule

/-- The operand of a grammar. -/
inductive OperandRule (Settings : Type) where
  | none
  | optional (update : String → Settings → Settings)
  | required (name : String) (update : String → Settings → Settings)
  /-- A command, to which all words after it belong. -/
  | command (name : String)

/-- A grammar of command lines. -/
structure Grammar (Settings : Type) where
  /-- The words that start the program. -/
  program : String
  usage : String
  /-- What help tells besides the usage. -/
  details : String
  options : List (OptionRule Settings)
  operand : OperandRule Settings
  /-- Options of which exactly one must be given, by title. -/
  alternatives : List String

namespace Grammar

variable {Settings : Type}

/-- The names of all options. -/
def names (grammar : Grammar Settings) : List String :=
  grammar.options.flatMap OptionRule.names

def rule? (grammar : Grammar Settings) (name : String) : Option (OptionRule Settings) :=
  grammar.options.find? fun rule => rule.names.contains name

end Grammar

end ReadmePress
