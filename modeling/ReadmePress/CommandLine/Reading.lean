import ReadmePress.CommandLine.Grammar
import ReadmePress.CommandLine.Word

/-!
Reading a command line by a grammar, from left to right. Words that have no place in the
grammar are collected and do not stop the reading; a request for help stops it at once.
-/

namespace ReadmePress

open ReadmePress.Text

/-- What is wrong with a command line. -/
inductive UsageFault where
  | ambiguous (ambiguity : Ambiguity)
  /-- A value is written to an option that takes none. -/
  | unusedValue (option value : String)
  | noValue (option : String)
  | unsuitable (option : String) (fault : ValueFault)
  | exclusive (option other : String)
  | missing (names : List String)
  | noAlternative (options : List String)
  | unrecognized (words : List String)
  deriving DecidableEq, Repr

namespace UsageFault

/-- A report about one option or operand. -/
def about (name reason : String) : String := "argument " ++ name ++ ": " ++ reason

def message : UsageFault → String
  | .ambiguous ambiguity =>
      "ambiguous option: " ++ ambiguity.word ++ " could match "
        ++ ", ".intercalate ambiguity.names
  | .unusedValue option value => about option ("ignored explicit argument " ++ quoted value)
  | .noValue option => about option "expected one argument"
  | .unsuitable option fault => about option fault.message
  | .exclusive option other => about option ("not allowed with argument " ++ other)
  | .missing names => "the following arguments are required: " ++ ", ".intercalate names
  | .noAlternative options =>
      "one of the arguments " ++ " ".intercalate options ++ " is required"
  | .unrecognized words => "unrecognized arguments: " ++ " ".intercalate words

end UsageFault

/-- Why the reading of a line ends before its end. -/
inductive Stop where
  | help (text : String)
  | refused (program usage : String) (fault : UsageFault)
  deriving DecidableEq, Repr

/-- What has been read of a line. -/
structure Reading (Settings : Type) where
  settings : Settings
  /-- The titles of the options given. -/
  given : List String
  operandGiven : Bool
  /-- A command and the words that belong to it. -/
  command : List String
  unrecognized : List String

namespace Grammar

variable {Settings : Type}

/-- Refuses a line. -/
def refuse (grammar : Grammar Settings) (fault : UsageFault) : Stop :=
  .refused grammar.program grammar.usage fault

/-- Whether a name has a single hyphen. -/
def isShort (name : String) : Bool := !"--".toList.isPrefixOf name.toList

/-- The options that a switch and the letters after it stand for. -/
def switches (grammar : Grammar Settings) (rule : OptionRule Settings) :
    List Char → Except UsageFault (List (OptionRule Settings))
  | [] => .ok [rule]
  | letter :: rest =>
      match grammar.rule? (String.ofList ['-', letter]) with
      | none => .error (.unusedValue rule.title (String.ofList (letter :: rest)))
      | some next => (grammar.switches next rest).map (rule :: ·)

/-- The effect of an option without a value. -/
def applySwitch (grammar : Grammar Settings) (reading : Reading Settings)
    (rule : OptionRule Settings) : Except Stop (Reading Settings) :=
  match rule.effect with
  | .help => .error (.help (grammar.usage ++ grammar.details))
  | .switch update =>
      .ok { reading with
        settings := update reading.settings
        given := reading.given ++ [rule.title] }
  | .take _ => .error (grammar.refuse (.noValue rule.title))

/-- The effect of an option with a value. -/
def applyTake (grammar : Grammar Settings) (reading : Reading Settings)
    (rule : OptionRule Settings) (value : GivenValue)
    (update : GivenValue → Settings → Except ValueFault Settings) :
    Except Stop (Reading Settings) :=
  match update value reading.settings with
  | .error fault => .error (grammar.refuse (.unsuitable rule.title fault))
  | .ok settings =>
      let others := grammar.alternatives.filter fun other =>
        other != rule.title && reading.given.contains other
      match others with
      | other :: _ =>
          if grammar.alternatives.contains rule.title then
            .error (grammar.refuse (.exclusive rule.title other))
          else .ok { reading with settings := settings, given := reading.given ++ [rule.title] }
      | [] => .ok { reading with settings := settings, given := reading.given ++ [rule.title] }

/-- The effect of an option whose word holds more than its name. -/
def applyWritten (grammar : Grammar Settings) (reading : Reading Settings)
    (rule : OptionRule Settings) (name written : String) : Except Stop (Reading Settings) :=
  match rule.effect with
  | .take update => grammar.applyTake reading rule (.ofWritten written) update
  | _ =>
      if isShort name && written != "" then
        match grammar.switches rule written.toList with
        | .error fault => .error (grammar.refuse fault)
        | .ok rules => rules.foldlM grammar.applySwitch reading
      else .error (grammar.refuse (.unusedValue rule.title written))

/-- A word that has no place. -/
def skip (reading : Reading Settings) (word : Word) : Reading Settings :=
  { reading with unrecognized := reading.unrecognized ++ [word.text] }

/-- The effect of an operand, unless the grammar has none or it has been given. -/
def applyOperand? (grammar : Grammar Settings) (reading : Reading Settings) (text : String) :
    Option (Reading Settings) :=
  if reading.operandGiven then none
  else match grammar.operand with
    | .optional update | .required _ update =>
        some { reading with settings := update text reading.settings, operandGiven := true }
    | _ => none

def readWords (grammar : Grammar Settings) :
    Reading Settings → List Word → Except Stop (Reading Settings)
  | reading, [] => .ok reading
  | reading, word :: rest =>
      match word.role with
      | .unknown => grammar.readWords (skip reading word) rest
      | .option name written =>
          match grammar.rule? name with
          | none => grammar.readWords (skip reading word) rest
          | some rule =>
              match written, rule.effect with
              | some written, _ => do
                  grammar.readWords (← grammar.applyWritten reading rule name written) rest
              | none, .take update =>
                  match rest with
                  | { text := value, role := .operand } :: others => do
                      grammar.readWords
                        (← grammar.applyTake reading rule (.text value) update) others
                  | _ => .error (grammar.refuse (.noValue rule.title))
              | none, _ => do grammar.readWords (← grammar.applySwitch reading rule) rest
      | .operand =>
          match grammar.operand, grammar.applyOperand? reading word.text with
          | .command _, _ =>
              .ok { reading with command := word.text :: rest.map Word.text }
          | _, none => grammar.readWords (skip reading word) rest
          | _, some reading =>
              match rest with
              | { text := _, role := .endMark } :: others => grammar.readWords reading others
              | others => grammar.readWords reading others
      | .endMark =>
          match grammar.operand, rest with
          | .command _, _ :: _ =>
              .ok { reading with command := word.text :: rest.map Word.text }
          | .optional _, [] =>
              .ok (if reading.operandGiven then skip reading word else reading)
          | _, next :: others =>
              match grammar.applyOperand? reading next.text with
              | some reading => grammar.readWords reading others
              | none => grammar.readWords (skip (skip reading word) next) others
          | _, [] => .ok (skip reading word)
termination_by structural _ words => words

/-- The names of what a line must have and does not. -/
def missing (grammar : Grammar Settings) (reading : Reading Settings) : List String :=
  let operand :=
    match grammar.operand with
    | .required name _ => if reading.operandGiven then [] else [name]
    | .command name => if reading.command.isEmpty then [name] else []
    | _ => []
  let options := grammar.options.filter fun rule =>
    rule.required && !reading.given.contains rule.title
  operand ++ options.map OptionRule.title

/-- Checks that a line has what it must have. -/
def complete (grammar : Grammar Settings) (reading : Reading Settings) :
    Except Stop (Reading Settings) :=
  match grammar.missing reading with
  | [] =>
      if grammar.alternatives.isEmpty
          || grammar.alternatives.any fun option => reading.given.contains option then
        .ok reading
      else .error (grammar.refuse (.noAlternative grammar.alternatives))
  | names => .error (grammar.refuse (.missing names))

/-- Reads a line from some settings on. -/
def read (grammar : Grammar Settings) (settings : Settings) (line : List String) :
    Except Stop (Reading Settings) :=
  match Word.ofLine grammar.names line with
  | .error ambiguity => .error (grammar.refuse (.ambiguous ambiguity))
  | .ok words => do
      let start :=
        { settings := settings
          given := []
          operandGiven := false
          command := []
          unrecognized := [] }
      grammar.complete (← grammar.readWords start words)

end Grammar

end ReadmePress
