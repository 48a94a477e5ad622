import ReadmePress.Proofs.CommandLine.Confirmation
import ReadmePress.Proofs.CommandLine.FullDocument

/-!
The line that writes to a path what is in a file. A path that is read as an option leaves the
line without its operand, so every line that is accepted says what it seems to say. What is
written is the text of the file with its line ends unified: it is the file byte for byte exactly
when the file has no carriage return.
-/

namespace ReadmePress

open ReadmePress.Text

namespace Word

/-- The first word of a line is the end mark, or it has a role of its own. -/
theorem line_cases (names rest : List String) (first : String) (words : List Word)
    (done : ofLine names (first :: rest) = .ok words) :
    (first = "--" ∧ words = { text := first, role := .endMark }
        :: rest.map fun operand => { text := operand, role := .operand }) ∨
      ∃ role more, first ≠ "--" ∧ roleOf names first = .ok role ∧ ofLine names rest = .ok more ∧
        words = { text := first, role := role } :: more := by
  unfold ofLine at done
  split at done
  next isMark => exact Or.inl ⟨isMark, (Except.ok.inj done).symm⟩
  next notMark =>
    obtain ⟨role, isRole, done⟩ := bind_succeeds _ _ _ done
    obtain ⟨more, asMore, done⟩ := bind_succeeds _ _ _ done
    exact Or.inr ⟨role, more, notMark, isRole, asMore, (Except.ok.inj done).symm⟩

theorem role_is_no_mark (names : List String) (word : String) (role : WordRole)
    (isRole : roleOf names word = .ok role) : role ≠ .endMark := by
  rintro rfl
  unfold roleOf at isRole
  simp only at isRole
  repeat' split at isRole
  all_goals simp at isRole

end Word

namespace Grammar

variable {Settings : Type} (grammar : Grammar Settings) (reading after : Reading Settings)

theorem switch_leaves_operand (rule : OptionRule Settings)
    (done : grammar.applySwitch reading rule = .ok after) :
    after.operandGiven = reading.operandGiven := by
  unfold applySwitch at done
  split at done
  next => cases done
  next =>
    cases done
    rfl
  next => cases done

theorem switches_leave_operand (rules : List (OptionRule Settings))
    (done : rules.foldlM grammar.applySwitch reading = .ok after) :
    after.operandGiven = reading.operandGiven := by
  induction rules generalizing reading with
  | nil =>
      cases done
      rfl
  | cons rule rest induction =>
      rw [List.foldlM_cons] at done
      obtain ⟨between, applied, onward⟩ := bind_succeeds _ _ _ done
      rw [induction between onward, grammar.switch_leaves_operand reading between rule applied]

/-- What an option does with a value, if it is accepted. -/
theorem take_updates (rule : OptionRule Settings) (value : GivenValue)
    (update : GivenValue → Settings → Except ValueFault Settings)
    (done : grammar.applyTake reading rule value update = .ok after) :
    update value reading.settings = .ok after.settings ∧
      after.operandGiven = reading.operandGiven := by
  unfold applyTake at done
  split at done
  next => cases done
  next settings updated =>
    simp only at done
    split at done
    next =>
      split at done
      next => cases done
      next =>
        cases done
        exact ⟨updated, rfl⟩
    next =>
      cases done
      exact ⟨updated, rfl⟩

theorem written_leaves_operand (rule : OptionRule Settings) (name written : String)
    (done : grammar.applyWritten reading rule name written = .ok after) :
    after.operandGiven = reading.operandGiven := by
  unfold applyWritten at done
  split at done
  next update effect => exact (grammar.take_updates reading after rule _ update done).2
  next =>
    split at done
    next =>
      split at done
      next => cases done
      next rules _ => exact grammar.switches_leave_operand reading after rules done
    next => cases done

/-- An option that takes a value takes the next word, which must be an operand. -/
theorem read_taking (word next : Word) (rest : List Word) (name : String)
    (rule : OptionRule Settings) (update : GivenValue → Settings → Except ValueFault Settings)
    (role : word.role = .option name none) (found : grammar.rule? name = some rule)
    (takes : rule.effect = .take update)
    (done : grammar.readWords reading (word :: next :: rest) = .ok after) :
    next.role = .operand ∧ ∃ between,
      grammar.applyTake reading rule (.text next.text) update = .ok between ∧
        grammar.readWords between rest = .ok after := by
  unfold readWords at done
  simp only [role, found, takes] at done
  split at done
  next value others same =>
    obtain ⟨rfl, rfl⟩ := List.cons.inj same
    exact ⟨rfl, bind_succeeds _ _ _ done⟩
  next => cases done

theorem read_switching (word : Word) (rest : List Word) (name : String)
    (rule : OptionRule Settings) (update : Settings → Settings)
    (role : word.role = .option name none) (found : grammar.rule? name = some rule)
    (switches : rule.effect = .switch update)
    (done : grammar.readWords reading (word :: rest) = .ok after) :
    grammar.readWords
      { reading with
        settings := update reading.settings
        given := reading.given ++ [rule.title] } rest = .ok after := by
  unfold readWords at done
  simp only [role, found, switches, applySwitch] at done
  exact done

/-- A word that is no operand, before a word that is none either, gives the line no operand. -/
theorem read_no_operand (word next : Word) (rest : List Word) (notOperand : word.role ≠ .operand)
    (notMark : word.role ≠ .endMark) (nextNotOperand : next.role ≠ .operand)
    (done : grammar.readWords reading (word :: next :: rest) = .ok after) :
    ∃ between : Reading Settings, between.operandGiven = reading.operandGiven ∧
      grammar.readWords between (next :: rest) = .ok after := by
  unfold readWords at done
  split at done
  next => exact ⟨skip reading word, rfl, done⟩
  next name written role =>
    split at done
    next => exact ⟨skip reading word, rfl, done⟩
    next rule found =>
      split at done
      next written =>
        obtain ⟨between, applied, onward⟩ := bind_succeeds _ _ _ done
        exact ⟨between, grammar.written_leaves_operand _ _ _ _ _ applied, onward⟩
      next update effect =>
        split at done
        next value others same =>
          obtain ⟨rfl, -⟩ := List.cons.inj same
          exact absurd rfl nextNotOperand
        next => cases done
      next =>
        obtain ⟨between, applied, onward⟩ := bind_succeeds _ _ _ done
        exact ⟨between, grammar.switch_leaves_operand _ _ _ applied, onward⟩
  next role => exact absurd role notOperand
  next role => exact absurd role notMark

/-- The required operand takes a word that is one. -/
theorem read_operand (word next : Word) (rest : List Word) (name : String)
    (update : String → Settings → Settings) (operand : grammar.operand = .required name update)
    (notGiven : reading.operandGiven = false) (role : word.role = .operand)
    (nextNotMark : next.role ≠ .endMark)
    (done : grammar.readWords reading (word :: next :: rest) = .ok after) :
    grammar.readWords
      { reading with
        settings := update word.text reading.settings
        operandGiven := true } (next :: rest) = .ok after := by
  unfold readWords at done
  simp only [role, operand, applyOperand?, notGiven, Bool.false_eq_true, if_false] at done
  split at done
  next others same =>
    obtain ⟨rfl, -⟩ := List.cons.inj same
    exact absurd rfl nextNotMark
  next => exact done

/-- A line without its required operand is refused. -/
theorem operand_of_complete (name : String) (update : String → Settings → Settings)
    (operand : grammar.operand = .required name update)
    (done : grammar.complete reading = .ok after) : reading.operandGiven = true := by
  unfold complete at done
  split at done
  next nothing =>
    simp only [missing, operand, List.append_eq_nil_iff, ite_eq_left_iff, Bool.not_eq_true,
      List.cons_ne_nil, imp_false] at nothing
    simpa using nothing.1
  next => cases done

theorem read_succeeds (settings : Settings) (line : List String)
    (done : grammar.read settings line = .ok after) :
    ∃ words, Word.ofLine grammar.names line = .ok words ∧
      grammar.readWords
        { settings := settings
          given := []
          operandGiven := false
          command := []
          unrecognized := [] } words = .ok after ∧
      grammar.complete after = .ok after := by
  unfold read at done
  split at done
  next => cases done
  next words asWords =>
    obtain ⟨between, asRead, completed⟩ := bind_succeeds _ _ _ done
    obtain rfl := grammar.complete_same between after completed
    exact ⟨words, asWords, asRead, completed⟩

end Grammar

namespace Command

/-- The line that writes to a path what is in a file. -/
def copyingLine (path source : String) : List String :=
  ["write", path, "--from-file", source, "--confirm"]

/-- What the line says. -/
structure AsksToCopy (path source : String) (settings : CommandSettings) : Prop where
  path : Json.member? settings.members "file_path" = some (Json.ofString path)
  source : settings.source = some (.text source)
  confirm : settings.confirm = true

/-- The words after the path set the source and the confirmation and nothing else. -/
theorem source_words (reading after : Reading CommandSettings) (source : String)
    (words : List Word)
    (asWords : Word.ofLine writeGrammar.names ["--from-file", source, "--confirm"] = .ok words)
    (done : writeGrammar.readWords reading words = .ok after) :
    after.settings = { reading.settings with source := some (.text source), confirm := true } ∧
      after.operandGiven = reading.operandGiven := by
  have fromFile : Word.roleOf writeGrammar.names "--from-file" =
      .ok (.option "--from-file" none) := rfl
  have confirm : Word.ofLine writeGrammar.names ["--confirm"] =
      .ok [{ text := "--confirm", role := .option "--confirm" none }] := rfl
  obtain ⟨isMark, -⟩ | ⟨role, more, -, isRole, asMore, rfl⟩ := Word.line_cases _ _ _ _ asWords
  · exact absurd isMark (by decide)
  obtain rfl := Except.ok.inj (fromFile.symm.trans isRole)
  obtain ⟨-, rfl⟩ | ⟨role, last, -, isRole, asLast, rfl⟩ := Word.line_cases _ _ _ _ asMore
  · obtain ⟨isOperand, -⟩ := writeGrammar.read_taking reading after _ _ _ "--from-file" _ _ rfl rfl
      rfl done
    exact absurd isOperand nofun
  · obtain rfl := Except.ok.inj (confirm.symm.trans asLast)
    obtain ⟨-, between, taken, onward⟩ := writeGrammar.read_taking reading after _ _ _ "--from-file"
      _ _ rfl rfl rfl done
    obtain ⟨updated, operandGiven⟩ := writeGrammar.take_updates reading between _ _ _ taken
    have ended := writeGrammar.read_switching between after _ [] "--confirm" _ _ rfl rfl rfl onward
    rw [Grammar.readWords, Except.ok.injEq] at ended
    rw [← ended, ← Except.ok.inj updated]
    exact ⟨rfl, operandGiven⟩

/-- A line that is accepted says what it seems to say, whatever the path is. -/
theorem write_words (path source : String) (after : Reading CommandSettings)
    (done : writeGrammar.read CommandSettings.none [path, "--from-file", source, "--confirm"] =
      .ok after) : AsksToCopy path source after.settings := by
  obtain ⟨words, asWords, asRead, completed⟩ := writeGrammar.read_succeeds after _ _ done
  have given := writeGrammar.operand_of_complete after after "file_path" _ rfl completed
  obtain ⟨rfl, rfl⟩ | ⟨role, more, notMark, isRole, asMore, rfl⟩ := Word.line_cases _ _ _ _ asWords
  · -- All words after the mark are operands, so that no source has been given.
    cases asRead
    exact absurd completed nofun
  · have fromFile : Word.roleOf writeGrammar.names "--from-file" =
        .ok (.option "--from-file" none) := rfl
    obtain ⟨next, others, rfl, nextOption⟩ : ∃ next others, more = next :: others ∧
        next.role = .option "--from-file" none := by
      obtain ⟨isMark, -⟩ | ⟨role, others, -, isRole, -, rfl⟩ := Word.line_cases _ _ _ _ asMore
      · exact absurd isMark (by decide)
      · exact ⟨_, others, rfl, (Except.ok.inj (fromFile.symm.trans isRole)).symm⟩
    by_cases isOperand : role = .operand
    · have onward := writeGrammar.read_operand _ after _ next others "file_path" _ rfl rfl isOperand
        (by simp [nextOption]) asRead
      obtain ⟨settings, -⟩ := source_words _ after source _ asMore onward
      rw [settings]
      exact ⟨rfl, rfl, rfl⟩
    · obtain ⟨between, sameOperand, onward⟩ := writeGrammar.read_no_operand _ after _ next others
        isOperand (Word.role_is_no_mark _ _ _ isRole) (by simp [nextOption]) asRead
      obtain ⟨-, sameAfter⟩ := source_words between after source _ asMore onward
      rw [sameAfter, sameOperand] at given
      exact absurd given (by decide)

/-- Reading the whole line leaves all its words to the command. -/
theorem whole_words (line : List String) (whole : Reading CommandSettings)
    (done : lineGrammar.read CommandSettings.none ("write" :: line) = .ok whole) :
    whole.command = "write" :: line ∧ whole.settings = CommandSettings.none := by
  obtain ⟨words, asWords, asRead, -⟩ := lineGrammar.read_succeeds whole _ _ done
  have isCommand : Word.roleOf lineGrammar.names "write" = .ok .operand := rfl
  obtain ⟨isMark, -⟩ | ⟨role, more, -, isRole, asMore, rfl⟩ := Word.line_cases _ _ _ _ asWords
  · exact absurd isMark (by decide)
  obtain rfl := Except.ok.inj (isCommand.symm.trans isRole)
  unfold Grammar.readWords at asRead
  rw [← Except.ok.inj asRead, ← Word.texts_of_line _ _ _ asMore]
  exact ⟨rfl, rfl⟩

theorem copying_line_read (path source : String) (command : Command) (settings : CommandSettings)
    (done : read (copyingLine path source) = .ok (command, settings)) :
    command = .write ∧ AsksToCopy path source settings := by
  obtain ⟨whole, asWhole, done⟩ := bind_succeeds _ _ _ done
  obtain ⟨⟨found, reading⟩, asCommand, done⟩ := bind_succeeds _ _ _ done
  obtain ⟨words, noSettings⟩ := whole_words _ whole asWhole
  have isWrite : ofName? "write" = some .write := rfl
  rw [words, noSettings, readCommand] at asCommand
  simp only [List.headD_cons, isWrite, List.drop_succ_cons, List.drop_zero] at asCommand
  obtain ⟨accepted, asAccepted, same⟩ := map_succeeds _ _ _ asCommand
  obtain ⟨rfl, rfl⟩ := Prod.mk.inj same
  have asks := write_words path source accepted asAccepted
  simp only at done
  split at done
  next =>
    obtain ⟨rfl, rfl⟩ := Prod.mk.inj (Except.ok.inj done)
    exact ⟨rfl, asks⟩
  next => cases done

section Copying

variable (workspace : Workspace) (path source : String) (text : List Char)

/-- A text with its line ends unified. -/
def unified (text : List Char) : String := String.ofList (unifyNewlines text)

theorem source_text_read
    (holds : workspace.readBytes (Path.ofString source) = .ok (encodeUtf8 text)) :
    sourceText workspace (Path.ofString source) = .ok (unified text) := by
  have asText := Workspace.text_of_encoded text
  simp only [sourceText, holds, Except.mapError, asText, bind, Except.bind]
  rfl

/-- The run of the line is the confirmed writing of the text. -/
theorem copying_line_run (settings : CommandSettings) (serviceFault : Option String)
    (asks : AsksToCopy path source settings)
    (holds : workspace.readBytes (Path.ofString source) = .ok (encodeUtf8 text)) :
    write.run workspace serviceFault settings =
      write.finish settings (Tool.write.invoke workspace
        (writeMembers (Json.ofString path) (Json.ofString (unified text)) true)) := by
  have read := source_text_read workspace source text holds
  simp only [run, writeText, asks.path, asks.source, asks.confirm, Option.getD_some, read]

theorem empty_path_refused (content : Json) (confirm : Bool) :
    ∃ issues, WriteArguments.read (writeMembers (Json.ofString "") content confirm) =
      .error issues := by
  obtain ⟨issues, asPath⟩ : ∃ issues, (Argument.mk "filePath" "file_path").required
      (Reader.text 1) (writeMembers (Json.ofString "") content confirm) = .error issues :=
    ⟨_, rfl⟩
  simp only [WriteArguments.read, asPath]
  exact ⟨_, rfl⟩

theorem unified_not_empty (notEmpty : text ≠ []) : unified text ≠ "" := by
  intro empty
  have nothing : unifyNewlines text = [] := by
    rw [← String.toList_ofList (l := unifyNewlines text)]
    exact congrArg String.toList empty
  cases text with
  | nil => exact notEmpty rfl
  | cons character rest =>
      by_cases isReturn : character = '\r'
      · obtain ⟨more, unifiedReturn⟩ := unify_newlines_return rest
        rw [isReturn, unifiedReturn] at nothing
        exact absurd nothing (List.cons_ne_nil _ _)
      · rw [unify_newlines_cons character rest isReturn] at nothing
        exact absurd nothing (List.cons_ne_nil _ _)

/-- The place that the line writes to. -/
def copyTarget : Path :=
  Workspace.writingTarget (Path.ofLocation workspace.workingDirectory) path

/-- The run writes the text where the path can be written, and it succeeds exactly there. -/
theorem copying_run_cases (settings : CommandSettings) (serviceFault : Option String)
    (asks : AsksToCopy path source settings) (notEmpty : text ≠ [])
    (holds : workspace.readBytes (Path.ofString source) = .ok (encodeUtf8 text)) :
    let run := write.run workspace serviceFault settings
    let written := workspace.writeText (copyTarget workspace path) (unified text)
    (run.ExitsWith 0 ↔ path ≠ "" ∧ ∃ size, written.outcome = .ok size) ∧
      (path ≠ "" → run.files = written.files) := by
  intro run written
  simp only [run, written]
  rw [copying_line_run workspace path source text settings serviceFault asks holds,
    finish_exits_iff]
  by_cases empty : path = ""
  · obtain ⟨issues, refused⟩ := empty_path_refused (Json.ofString (unified text)) true
    have failed := Tool.write.invoke_refused workspace
      (writeMembers (Json.ofString "") (Json.ofString (unified text)) true) issues
      (by rw [Tool.refusal?, refused]; rfl)
    rw [empty, failed]
    simp [Traced.fail]
  · have taken := write_members_taken path (unified text) true empty
      (unified_not_empty text notEmpty)
    have invoked : Tool.write.invoke workspace
        (writeMembers (Json.ofString path) (Json.ofString (unified text)) true) =
          workspace.writeFile (Path.ofLocation workspace.workingDirectory)
            { path := path, content := unified text, confirm := true } := by
      simp only [Tool.invoke, taken]
      rfl
    rw [invoked, Workspace.confirmed_write_outcome]
    refine ⟨?_, fun _ => rfl⟩
    unfold copyTarget
    cases (workspace.writeText (Workspace.writingTarget
      (Path.ofLocation workspace.workingDirectory) path) (unified text)).outcome with
    | error fault => simp
    | ok size => simp [empty]

end Copying

/-- The bytes of a text are those of its lines with line feeds between them only if no line ends
otherwise. -/
theorem unified_bytes_iff (text : List Char) :
    encodeUtf8 (unifyNewlines text) = encodeUtf8 text ↔ '\r' ∉ text := by
  constructor
  · intro sameBytes member
    have decoded := decode_encode (unifyNewlines text)
    rw [sameBytes, decode_encode, Except.ok.injEq] at decoded
    rw [decoded] at member
    exact return_not_mem_unified text member
  · intro noReturn
    rw [unify_newlines_of_no_return text noReturn]

/-- After the line that copies a file has succeeded, the path holds the text of the file with its
line ends unified, which are the bytes of the file exactly when there is no carriage return. The
line succeeds where that text can be written. -/
theorem copy_unifies_line_ends (workspace : Workspace) (path source text : String)
    (serviceFault : Option String)
    (isCommand : ∃ reading, read (copyingLine path source) = .ok reading)
    (holds : workspace.readBytes (Path.ofString source) = .ok text.toUTF8.data.toList)
    (notEmpty : text ≠ "") :
    let run := runLine workspace serviceFault (copyingLine path source)
    let target := copyTarget workspace path
    let after := workspace.withFiles run.files
    (run.ExitsWith 0 ↔
        path ≠ "" ∧ ∃ size, (workspace.writeText target (unified text.toList)).outcome = .ok size) ∧
      (run.ExitsWith 0 →
        after.readBytes target = .ok (unified text.toList).toUTF8.data.toList ∧
          (after.readBytes target = .ok text.toUTF8.data.toList ↔ '\r' ∉ text.toList)) := by
  intro run target after
  obtain ⟨⟨command, settings⟩, asRead⟩ := isCommand
  obtain ⟨rfl, asks⟩ := copying_line_read path source command settings asRead
  have isRun : run = write.run workspace serviceFault settings := by
    simp only [run, runLine, asRead]
  rw [← encode_eq_bytes] at holds
  have someText : text.toList ≠ [] := by
    simpa using notEmpty
  obtain ⟨exits, files⟩ := copying_run_cases workspace path source text.toList settings serviceFault
    asks someText holds
  rw [← isRun] at exits files
  refine ⟨exits, fun succeeded => ?_⟩
  obtain ⟨isPath, size, done⟩ := exits.mp succeeded
  obtain ⟨fault, failed, -⟩ | ⟨-, location, written⟩ :=
    Workspace.write_text_cases workspace target (unified text.toList)
  · rw [failed] at done
    cases done
  · have readBack := Workspace.read_bytes_of_arrive _ target location _ written.leads written.holds
    have readAfter : after.readBytes target = .ok (encodeUtf8 (unifyNewlines text.toList)) := by
      simp only [after, files isPath]
      rw [readBack, unified, String.toList_ofList]
    rw [readAfter, ← encode_eq_bytes, ← encode_eq_bytes, unified, String.toList_ofList]
    refine ⟨rfl, ?_⟩
    rw [Except.ok.injEq]
    exact unified_bytes_iff text.toList

/-- A workspace with one file, which holds the letters a and b and the given bytes between. -/
def twoLines (lineEnd : List UInt8) : Workspace :=
  { files := .directory [("source", .file ([97] ++ lineEnd ++ [98]))]
    workingDirectory := []
    home := "/"
    accounts := [] }

theorem line_feed_copied :
    let run := runLine (twoLines [10]) none (copyingLine "copy" "source")
    let target := copyTarget (twoLines [10]) "copy"
    (∃ reading, read (copyingLine "copy" "source") = .ok reading) ∧
      (twoLines [10]).readBytes (Path.ofString "source") = .ok "a\nb".toUTF8.data.toList ∧
      "a\nb" ≠ "" ∧ run.ExitsWith 0 ∧
      ((twoLines [10]).withFiles run.files).readBytes target = .ok "a\nb".toUTF8.data.toList := by
  intro run target
  have isCommand : ∃ reading, read (copyingLine "copy" "source") = .ok reading := ⟨_, rfl⟩
  have holds : (twoLines [10]).readBytes (Path.ofString "source") =
      .ok "a\nb".toUTF8.data.toList := by
    decide +kernel
  have written : ((twoLines [10]).writeText target (unified "a\nb".toList)).outcome = .ok 3 := by
    decide +kernel
  obtain ⟨succeeds, copies⟩ := copy_unifies_line_ends (twoLines [10]) "copy" "source" "a\nb" none
    isCommand holds (by decide)
  have exits : run.ExitsWith 0 := succeeds.mpr ⟨by decide, 3, written⟩
  exact ⟨isCommand, holds, by decide, exits, (copies exits).2.mpr (by decide)⟩

/-- The two bytes of a line end become one. -/
theorem carriage_return_not_copied :
    let run := runLine (twoLines [13, 10]) none (copyingLine "copy" "source")
    let target := copyTarget (twoLines [13, 10]) "copy"
    (twoLines [13, 10]).readBytes (Path.ofString "source") = .ok "a\r\nb".toUTF8.data.toList ∧
      run.ExitsWith 0 ∧
      ((twoLines [13, 10]).withFiles run.files).readBytes target =
        .ok "a\nb".toUTF8.data.toList ∧
      ((twoLines [13, 10]).withFiles run.files).readBytes target ≠
        .ok "a\r\nb".toUTF8.data.toList := by
  refine ⟨by decide +kernel, ⟨_, rfl, rfl⟩, ?_, ?_⟩
  · decide +kernel
  · decide +kernel

end Command

end ReadmePress
