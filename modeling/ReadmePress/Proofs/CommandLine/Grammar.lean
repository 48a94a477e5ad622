import Mathlib.Tactic.SplitIfs
import ReadmePress.CommandLine.Reading
import ReadmePress.Proofs.Outcome

/-!
What reading a line can do to the settings. A property of the settings that every option but one
keeps holds after a line whose words never stand for that one, and the words that are left to a
command are words of the line.
-/

namespace ReadmePress

variable {Settings : Type}

/-- Whatever the option is given, it keeps a property of the settings. -/
def OptionRule.Keeps (kept : Settings → Prop) (rule : OptionRule Settings) : Prop :=
  match rule.effect with
  | .help => True
  | .switch update => ∀ settings, kept settings → kept (update settings)
  | .take update => ∀ value settings result, kept settings →
      update value settings = .ok result → kept result

/-- Whatever the operand is, it keeps a property of the settings. -/
def OperandRule.Keeps (kept : Settings → Prop) : OperandRule Settings → Prop
  | .optional update => ∀ text settings, kept settings → kept (update text settings)
  | .required _ update => ∀ text settings, kept settings → kept (update text settings)
  | _ => True

/-- A part of a reading: the command has not been reached, and a property of the settings is
kept. -/
structure Reading.Follows (kept : Settings → Prop) (before after : Reading Settings) : Prop where
  settings : kept before.settings → kept after.settings
  command : after.command = before.command

namespace Grammar

/-- Every option but the one of a name keeps a property of the settings, and so does the
operand. -/
structure KeepsBut (kept : Settings → Prop) (option : String) (grammar : Grammar Settings) :
    Prop where
  options : ∀ rule ∈ grammar.options, rule.names = [option] ∨ rule.Keeps kept
  operand : grammar.operand.Keeps kept

theorem skip_follows (kept : Settings → Prop) (reading : Reading Settings) (word : Word) :
    Reading.Follows kept reading (skip reading word) :=
  { settings := fun holds => holds, command := rfl }

theorem rule_keeps (kept : Settings → Prop) (option : String) (grammar : Grammar Settings)
    (keeps : grammar.KeepsBut kept option) (name : String) (rule : OptionRule Settings)
    (different : name ≠ option) (found : grammar.rule? name = some rule) : rule.Keeps kept := by
  have named := List.find?_some found
  rcases keeps.options rule (List.mem_of_find?_eq_some found) with same | ruleKeeps
  · rw [same] at named
    exact absurd (by simpa using named) different
  · exact ruleKeeps

theorem apply_switch_follows (kept : Settings → Prop) (grammar : Grammar Settings)
    (reading after : Reading Settings) (rule : OptionRule Settings) (keeps : rule.Keeps kept)
    (done : grammar.applySwitch reading rule = .ok after) :
    Reading.Follows kept reading after := by
  unfold applySwitch at done
  unfold OptionRule.Keeps at keeps
  cases effect : rule.effect with
  | help => simp [effect] at done
  | take update => simp [effect] at done
  | switch update =>
      simp only [effect, Except.ok.injEq] at done keeps
      subst done
      exact { settings := keeps reading.settings, command := rfl }

theorem apply_take_follows (kept : Settings → Prop) (grammar : Grammar Settings)
    (reading after : Reading Settings) (rule : OptionRule Settings) (value : GivenValue)
    (update : GivenValue → Settings → Except ValueFault Settings) (keeps : rule.Keeps kept)
    (effect : rule.effect = .take update)
    (done : grammar.applyTake reading rule value update = .ok after) :
    Reading.Follows kept reading after := by
  unfold OptionRule.Keeps at keeps
  rw [effect] at keeps
  unfold applyTake at done
  split at done
  next fault refused => simp at done
  next settings updated =>
    have result : after.settings = settings ∧ after.command = reading.command := by
      simp only at done
      split_ifs at done
      all_goals
        split at done
        next => cases done <;> exact ⟨rfl, rfl⟩
        next => cases done; exact ⟨rfl, rfl⟩
    refine { settings := fun holds => ?_, command := result.2 }
    rw [result.1]
    exact keeps value reading.settings settings holds updated

theorem apply_switches_follow (kept : Settings → Prop) (grammar : Grammar Settings)
    (rules : List (OptionRule Settings)) (reading after : Reading Settings)
    (keep : ∀ rule ∈ rules, rule.Keeps kept)
    (done : rules.foldlM grammar.applySwitch reading = .ok after) :
    Reading.Follows kept reading after := by
  induction rules generalizing reading with
  | nil =>
      cases done
      exact { settings := fun holds => holds, command := rfl }
  | cons rule rest induction =>
      rw [List.foldlM_cons] at done
      cases applied : grammar.applySwitch reading rule with
      | error stop => simp [applied, bind, Except.bind] at done
      | ok between =>
          rw [applied] at done
          have first := apply_switch_follows kept grammar reading between rule
            (keep rule List.mem_cons_self) applied
          have others := induction between (fun other member =>
            keep other (List.mem_cons_of_mem rule member)) done
          exact
            { settings := fun holds => others.settings (first.settings holds)
              command := others.command.trans first.command }

theorem switches_keep (kept : Settings → Prop) (option : String) (grammar : Grammar Settings)
    (keeps : grammar.KeepsBut kept option)
    (isLong : ∀ letter, String.ofList ['-', letter] ≠ option) (letters : List Char)
    (rule : OptionRule Settings) (ruleKeeps : rule.Keeps kept)
    (rules : List (OptionRule Settings)) (found : grammar.switches rule letters = .ok rules) :
    ∀ member ∈ rules, member.Keeps kept := by
  induction letters generalizing rule rules with
  | nil =>
      cases found
      simpa using ruleKeeps
  | cons letter rest induction =>
      unfold switches at found
      split at found
      next => simp at found
      next next named =>
        cases others : grammar.switches next rest with
        | error fault => simp [others, Except.map] at found
        | ok more =>
            simp only [others, Except.map, Except.ok.injEq] at found
            subst found
            have nextKeeps := rule_keeps kept option grammar keeps _ next (isLong letter) named
            intro member isMember
            rcases List.mem_cons.mp isMember with rfl | isOther
            · exact ruleKeeps
            · exact induction next nextKeeps more others member isOther

theorem apply_written_follows (kept : Settings → Prop) (option : String)
    (grammar : Grammar Settings) (keeps : grammar.KeepsBut kept option)
    (isLong : ∀ letter, String.ofList ['-', letter] ≠ option)
    (reading after : Reading Settings) (rule : OptionRule Settings) (ruleKeeps : rule.Keeps kept)
    (name written : String)
    (done : grammar.applyWritten reading rule name written = .ok after) :
    Reading.Follows kept reading after := by
  unfold applyWritten at done
  split at done
  next update effect =>
    exact apply_take_follows kept grammar reading after rule _ update ruleKeeps effect done
  next =>
    split at done
    · split at done
      next => simp at done
      next rules found =>
        exact apply_switches_follow kept grammar rules reading after
          (switches_keep kept option grammar keeps isLong _ rule ruleKeeps rules found) done
    · simp at done

theorem apply_operand_follows (kept : Settings → Prop) (option : String)
    (grammar : Grammar Settings) (keeps : grammar.KeepsBut kept option)
    (reading after : Reading Settings) (text : String)
    (done : grammar.applyOperand? reading text = some after) :
    Reading.Follows kept reading after := by
  have operandKeeps := keeps.operand
  unfold applyOperand? at done
  split at done
  · simp at done
  · split at done
    next update operand =>
      rw [operand] at operandKeeps
      cases done
      exact { settings := operandKeeps text reading.settings, command := rfl }
    next name update operand =>
      rw [operand] at operandKeeps
      cases done
      exact { settings := operandKeeps text reading.settings, command := rfl }
    next => simp at done

/-- No word stands for the option of a name. -/
def NoneNames (option : String) (words : List Word) : Prop :=
  ∀ word ∈ words, ∀ written, word.role ≠ .option option written

theorem none_names_of_subset (option : String) (words part : List Word) (subset : part ⊆ words)
    (unnamed : NoneNames option words) : NoneNames option part :=
  fun word member => unnamed word (subset member)

/-- What reading words comes to: a property of the settings is kept, and what is left to a
command was left before or stands among the words. -/
structure Reaches (kept : Settings → Prop) (start : Reading Settings) (words : List Word)
    (after : Reading Settings) : Prop where
  settings : kept start.settings → kept after.settings
  command : ∀ text ∈ after.command, text ∈ start.command ∨ text ∈ words.map Word.text

theorem reaches_onward (kept : Settings → Prop) (start between after : Reading Settings)
    (words rest : List Word) (follows : Reading.Follows kept start between)
    (subset : rest ⊆ words) (reaches : Reaches kept between rest after) :
    Reaches kept start words after := by
  refine { settings := fun holds => reaches.settings (follows.settings holds), command := ?_ }
  intro text left
  rcases reaches.command text left with leftBefore | amongRest
  · rw [follows.command] at leftBefore
    exact Or.inl leftBefore
  · exact Or.inr (List.map_subset Word.text subset amongRest)

theorem reaches_end (kept : Settings → Prop) (start after : Reading Settings)
    (words : List Word) (follows : Reading.Follows kept start after) :
    Reaches kept start words after := by
  refine { settings := follows.settings, command := fun text left => Or.inl ?_ }
  rw [follows.command] at left
  exact left

theorem reaches_command (kept : Settings → Prop) (start : Reading Settings)
    (words : List Word) :
    Reaches kept start words { start with command := words.map Word.text } :=
  { settings := fun holds => holds, command := fun _ left => Or.inr left }

section Steps

variable (kept : Settings → Prop) (option : String) (grammar : Grammar Settings)
  (start after : Reading Settings) (words rest : List Word)
  (unnamed : NoneNames option words) (subset : rest ⊆ words)

include unnamed

/-- A word that stands for an option stands for one that keeps the property. -/
theorem word_rule_keeps (keeps : grammar.KeepsBut kept option) (word : Word) (name : String)
    (written : Option String) (rule : OptionRule Settings) (member : word ∈ words)
    (role : word.role = .option name written) (found : grammar.rule? name = some rule) :
    rule.Keeps kept := by
  refine rule_keeps kept option grammar keeps name rule ?_ found
  rintro rfl
  exact unnamed word member written role

include subset

/-- A step, and what the words behind it come to. -/
theorem step_reaches (between : Reading Settings) (follows : Reading.Follows kept start between)
    (onward : NoneNames option rest → Reaches kept between rest after) :
    Reaches kept start words after :=
  reaches_onward kept start between after words rest follows subset
    (onward (none_names_of_subset option words rest subset unnamed))

/-- A step that can fail, and what the words behind it come to. -/
theorem checked_step_reaches (step : Except Stop (Reading Settings))
    (done : (do grammar.readWords (← step) rest) = .ok after)
    (follows : ∀ between, step = .ok between → Reading.Follows kept start between)
    (onward : ∀ between, NoneNames option rest → grammar.readWords between rest = .ok after →
      Reaches kept between rest after) :
    Reaches kept start words after := by
  obtain ⟨between, stepped, read⟩ := bind_succeeds _ _ _ done
  exact step_reaches kept option start after words rest unnamed subset between
    (follows between stepped) fun later => onward between later read

end Steps

/-- Words none of which stands for the excepted option keep what the other options keep. -/
theorem read_words_reaches (kept : Settings → Prop) (option : String)
    (grammar : Grammar Settings) (keeps : grammar.KeepsBut kept option)
    (isLong : ∀ letter, String.ofList ['-', letter] ≠ option) (words : List Word)
    (unnamed : NoneNames option words) (start after : Reading Settings)
    (done : grammar.readWords start words = .ok after) : Reaches kept start words after := by
  have behindTwo (word next : Word) (others : List Word) : others ⊆ word :: next :: others :=
    List.subset_cons_of_subset _ (List.subset_cons_self _ others)
  have operandFollows := apply_operand_follows kept option grammar keeps
  -- One case for each way to take up a word; what is behind it is left to the induction.
  fun_induction Grammar.readWords grammar start words with
  | case1 reading =>
      cases done
      exact reaches_end kept _ _ _ { settings := fun holds => holds, command := rfl }
  | case2 reading word rest role induction =>
      exact step_reaches kept option _ _ _ _ unnamed (List.subset_cons_self word rest) _
        (skip_follows kept reading word) (induction · done)
  | case3 reading word rest name written role absent induction =>
      exact step_reaches kept option _ _ _ _ unnamed (List.subset_cons_self word rest) _
        (skip_follows kept reading word) (induction · done)
  | case4 reading word rest name rule found written role induction =>
      have ruleKeeps := word_rule_keeps kept option grammar _ unnamed keeps word name _ rule
        List.mem_cons_self role found
      exact checked_step_reaches kept option grammar _ _ _ _ unnamed
        (List.subset_cons_self word rest) _ done
        (fun between => apply_written_follows kept option grammar keeps isLong reading between rule
          ruleKeeps name written) induction
  | case5 reading word name rule found update effect value others role induction =>
      have ruleKeeps := word_rule_keeps kept option grammar _ unnamed keeps word name _ rule
        List.mem_cons_self role found
      exact checked_step_reaches kept option grammar _ _ _ _ unnamed (behindTwo _ _ others) _ done
        (fun between => apply_take_follows kept grammar reading between rule _ update ruleKeeps
          effect) induction
  | case6 => simp at done
  | case7 reading word rest name rule found noValue role induction =>
      have ruleKeeps := word_rule_keeps kept option grammar _ unnamed keeps word name _ rule
        List.mem_cons_self role found
      exact checked_step_reaches kept option grammar _ _ _ _ unnamed
        (List.subset_cons_self word rest) _ done
        (fun between => apply_switch_follows kept grammar reading between rule ruleKeeps) induction
  | case8 reading word rest role name operand =>
      cases done
      exact reaches_command kept reading (word :: rest)
  | case9 reading word rest role refused noCommand induction =>
      exact step_reaches kept option _ _ _ _ unnamed (List.subset_cons_self word rest) _
        (skip_follows kept reading word) (induction · done)
  | case10 reading word role between applied mark others noCommand induction =>
      exact step_reaches kept option _ _ _ _ unnamed (behindTwo _ _ others) _
        (operandFollows reading between _ applied) (induction · done)
  | case11 reading word role between applied others noMark noCommand induction =>
      exact step_reaches kept option _ _ _ _ unnamed (List.subset_cons_self word others) _
        (operandFollows reading between _ applied) (induction · done)
  | case12 reading word role name next others operand =>
      cases done
      exact reaches_command kept reading (word :: next :: others)
  | case13 reading word role update operand =>
      cases done
      split
      · exact reaches_end kept _ _ _ (skip_follows kept reading word)
      · exact reaches_end kept _ _ _ { settings := fun holds => holds, command := rfl }
  | case14 reading word role next others between applied noCommand induction =>
      exact step_reaches kept option _ _ _ _ unnamed (behindTwo _ _ others) _
        (operandFollows reading between _ applied) (induction · done)
  | case15 reading word role next others refused noCommand induction =>
      exact step_reaches kept option _ _ _ _ unnamed (behindTwo _ _ others)
        (skip (skip reading word) next) { settings := fun holds => holds, command := rfl }
        (induction · done)
  | case16 reading word role noOptional =>
      cases done
      exact reaches_end kept _ _ _ (skip_follows kept reading word)

end Grammar

end ReadmePress
