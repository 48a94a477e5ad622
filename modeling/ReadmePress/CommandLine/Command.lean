import ReadmePress.CommandLine.Help
import ReadmePress.CommandLine.Reading
import ReadmePress.Facts.Language
import ReadmePress.Number.Integer
import ReadmePress.Tools.Arguments

/-!
The commands of the program and the grammars of their lines. What a line says about the
arguments of a tool is kept as members under the inner names of the arguments, so that a command
and the tool that it stands for check the same values.
-/

namespace ReadmePress

open ReadmePress.Number ReadmePress.Text

inductive Command where
  | detect
  | short
  | full
  | write
  | serve
  deriving DecidableEq, Repr

/-- What a command line says. -/
structure CommandSettings where
  verbose : Bool
  quiet : Bool
  /-- The arguments of the tool. -/
  members : Members
  confirm : Bool
  /-- The path that the full document is written to. -/
  output : Option GivenValue
  /-- The file that the text to write is read from. -/
  source : Option GivenValue
  host : GivenValue
  port : Option Int
  deriving Repr

namespace GivenValue

/-- A given value as an argument of a tool: no value is an empty list. -/
def toJson : GivenValue → Json
  | .text value => Json.ofString value
  | .nothing => .array []

def shown : GivenValue → String
  | .text value => value
  | .nothing => "[]"

end GivenValue

namespace CommandSettings

/-- What an empty line says. -/
def none : CommandSettings :=
  { verbose := false
    quiet := false
    members := []
    confirm := false
    output := .none
    source := .none
    host := .text "127.0.0.1"
    port := some 8000 }

/-- Gives an argument its value. -/
def put (settings : CommandSettings) (name : String) (value : Json) : CommandSettings :=
  { settings with members := OrderedMap.put settings.members (WideText.ofString name) value }

/-- Adds a value to a list argument. -/
def add (settings : CommandSettings) (name : String) (value : Json) : CommandSettings :=
  match Json.member? settings.members name with
  | some (.array items) => settings.put name (.array (items ++ [value]))
  | _ => settings.put name (.array [value])

end CommandSettings

namespace OptionRule

/-- An option without a value. -/
def ofSwitch (names : List String) (update : CommandSettings → CommandSettings) :
    OptionRule CommandSettings :=
  { names := names, effect := .switch update, required := false }

def ofValue (name : String) (update : GivenValue → CommandSettings → CommandSettings) :
    OptionRule CommandSettings :=
  { names := [name]
    effect := .take fun value settings => .ok (update value settings)
    required := false }

/-- An option whose value is the value of an argument. -/
def ofArgument (name argument : String) : OptionRule CommandSettings :=
  ofValue name fun value settings => settings.put argument value.toJson

/-- An option whose values make up a list argument. -/
def ofListArgument (name argument : String) : OptionRule CommandSettings :=
  ofValue name fun value settings => settings.add argument value.toJson

/-- An option whose value is an integer. -/
def ofInteger (name : String) (update : Option Int → CommandSettings → CommandSettings) :
    OptionRule CommandSettings :=
  { names := [name]
    effect := .take fun value settings =>
      match value with
      | .nothing => .ok (update none settings)
      | .text text =>
          match readDecimal text.toList with
          | .ok integer => .ok (update (some integer) settings)
          | .error _ => .error (.notInteger text)
    required := false }

/-- An option whose value is one of some texts. -/
def ofChoice (name argument : String) (choices : List String) : OptionRule CommandSettings :=
  { names := [name]
    effect := .take fun value settings =>
      match value with
      | .nothing => .ok (settings.put argument value.toJson)
      | .text text =>
          if choices.contains text then .ok (settings.put argument value.toJson)
          else .error (.notOneOf text choices)
    required := false }

def help : OptionRule CommandSettings :=
  { names := ["-h", "--help"], effect := .help, required := false }

def verbose : OptionRule CommandSettings :=
  ofSwitch ["-v", "--verbose"] fun settings => { settings with verbose := true }

def quiet : OptionRule CommandSettings :=
  ofSwitch ["-q", "--quiet"] fun settings => { settings with quiet := true }

def confirm : OptionRule CommandSettings :=
  ofSwitch ["--confirm"] fun settings => { settings with confirm := true }

/-- The same option, without which a line is refused. -/
def demanded (rule : OptionRule CommandSettings) : OptionRule CommandSettings :=
  { rule with required := true }

end OptionRule

namespace Command

/-- Every command, in the order of the help text. -/
def all : List Command := [.detect, .short, .full, .write, .serve]

def name : Command → String
  | .detect => "detect"
  | .short => "readme"
  | .full => "pro"
  | .write => "write"
  | .serve => "serve"

def ofName? (name : String) : Option Command := all.find? fun command => command.name = name

/-- The name of the program. -/
def program : String := "readmegen"

/-- What the command is called in reports about the whole line. -/
def operandName : String := "command"

/-- The directory that a tool works on. -/
def directoryOperand : OperandRule CommandSettings :=
  .optional fun text settings => settings.put "dir" (Json.ofString text)

/-- The grammar of whole lines, which end in a command. -/
def lineGrammar : Grammar CommandSettings :=
  { program := program
    usage := Help.programUsage
    details := Help.programDetails
    options := [.help, .verbose, .quiet]
    operand := .command operandName
    alternatives := [] }

def detectGrammar : Grammar CommandSettings :=
  { program := program ++ " " ++ detect.name
    usage := Help.detectUsage
    details := Help.detectDetails
    options := [.help, .verbose]
    operand := directoryOperand
    alternatives := [] }

def shortGrammar : Grammar CommandSettings :=
  { program := program ++ " " ++ short.name
    usage := Help.shortUsage
    details := Help.shortDetails
    options :=
      [.help, .verbose, (OptionRule.ofArgument "--name" "name").demanded,
        .ofArgument "--description" "description", .ofListArgument "--feature" "features"]
    operand := .none
    alternatives := [] }

def fullGrammar : Grammar CommandSettings :=
  { program := program ++ " " ++ full.name
    usage := Help.fullUsage
    details := Help.fullDetails
    options :=
      [.help, .verbose, .ofArgument "--name" "name",
        .ofArgument "--description" "description",
        .ofListArgument "--feature" "extra_features",
        .ofSwitch ["--no-badges"] fun settings => settings.put "add_badges" (.bool false),
        .ofSwitch ["--no-toc"] fun settings => settings.put "include_toc" (.bool false),
        .ofInteger "--depth" fun depth settings =>
          settings.put "max_tree_depth" (depth.elim (.array []) .integer),
        .ofChoice "--language" "language" (Language.all.map Language.code),
        .ofValue "--output" fun value settings => { settings with output := some value },
        .confirm]
    operand := directoryOperand
    alternatives := [] }

def writeGrammar : Grammar CommandSettings :=
  { program := program ++ " " ++ write.name
    usage := Help.writeUsage
    details := Help.writeDetails
    options :=
      [.help, .verbose, .ofArgument "--content" "content",
        .ofValue "--from-file" fun value settings => { settings with source := some value },
        .confirm]
    operand :=
      .required "file_path" fun text settings =>
        settings.put "file_path" (Json.ofString text)
    alternatives := ["--content", "--from-file"] }

def serveGrammar : Grammar CommandSettings :=
  { program := program ++ " " ++ serve.name
    usage := Help.serveUsage
    details := Help.serveDetails
    options :=
      [.help, .verbose, .ofValue "--host" fun value settings => { settings with host := value },
        .ofInteger "--port" fun port settings => { settings with port := port }]
    operand := .none
    alternatives := [] }

/-- The grammar of the words after a command. -/
def grammar : Command → Grammar CommandSettings
  | .detect => detectGrammar
  | .short => shortGrammar
  | .full => fullGrammar
  | .write => writeGrammar
  | .serve => serveGrammar

/-- Reads a command and the words that belong to it. -/
def readCommand (settings : CommandSettings) (name : String) (words : List String) :
    Except Stop (Command × Reading CommandSettings) :=
  match ofName? name with
  | none =>
      .error (lineGrammar.refuse
        (.unsuitable operandName (.notOneOf name (all.map Command.name))))
  | some command => (command.grammar.read settings words).map fun reading => (command, reading)

/-- Reads a whole command line. Words that neither the line nor its command has a place for are
refused together in the end. -/
def read (line : List String) : Except Stop (Command × CommandSettings) := do
  let whole ← lineGrammar.read CommandSettings.none line
  let (command, reading) ←
    readCommand whole.settings (whole.command.headD "") (whole.command.drop 1)
  match whole.unrecognized ++ reading.unrecognized with
  | [] => .ok (command, reading.settings)
  | words => .error (lineGrammar.refuse (.unrecognized words))

end Command

end ReadmePress
