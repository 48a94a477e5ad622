import ReadmePress.CommandLine.Command
import ReadmePress.Proofs.CommandLine.Grammar

/-!
Where the confirmation of a command line comes from: only from a word that is the option for it,
written out or cut short.
-/

namespace ReadmePress

namespace Word

/-- A word is a long option or the start of one, apart from a value after an equals sign. -/
def NamesOption (option word : String) : Prop :=
  word ≠ "--" ∧ "--".toList <+: word.toList ∧ (splitAtEquals word.toList).1 <+: option.toList

instance (option word : String) : Decidable (NamesOption option word) := by
  unfold NamesOption
  infer_instance

theorem start_of_word (word : List Char) : (splitAtEquals word).1 <+: word := by
  unfold splitAtEquals
  split
  · exact List.prefix_refl word
  · exact List.takeWhile_prefix _

/-- What a candidate stands for is the name that it was held against. -/
theorem candidate_cases (word : List Char) (name found : String) (written : Option String)
    (candidate : candidate? word name = some (found, written)) :
    found = name ∧
      (("--".toList <+: word ∧ (splitAtEquals word).1 <+: name.toList) ∨
        name.toList = word.take 2 ∨ (¬ "--".toList <+: word ∧ word <+: name.toList)) := by
  unfold candidate? at candidate
  split_ifs at candidate with hyphens
  · rw [List.isPrefixOf_iff_prefix] at hyphens
    simp only at candidate
    split_ifs at candidate with starts
    rw [List.isPrefixOf_iff_prefix] at starts
    simp only [Option.some.injEq, Prod.mk.injEq] at candidate
    exact ⟨candidate.1.symm, Or.inl ⟨hyphens, starts⟩⟩
  · next isShort =>
    simp only [Option.some.injEq, Prod.mk.injEq] at candidate
    exact ⟨candidate.1.symm, Or.inr (Or.inl isShort)⟩
  · next starts =>
    rw [List.isPrefixOf_iff_prefix] at hyphens starts
    simp only [Option.some.injEq, Prod.mk.injEq] at candidate
    exact ⟨candidate.1.symm, Or.inr (Or.inr ⟨hyphens, starts⟩)⟩

/-- A word that starts with a hyphen and is the start of a long name has one hyphen only or
two. -/
theorem hyphens_of_start (word name : List Char) (long : "--".toList <+: name)
    (starts : word <+: name) (several : 1 < word.length) : "--".toList <+: word :=
  List.prefix_of_prefix_length_le long starts several

theorem role_of_long_option (names : List String) (option word : String)
    (written : Option String) (long : "--".toList <+: option.toList)
    (longer : 2 < option.toList.length) (notMark : word ≠ "--")
    (role : roleOf names word = .ok (.option option written)) : NamesOption option word := by
  have start := start_of_word word.toList
  unfold roleOf at role
  simp only at role
  split at role
  next => simp at role
  next hyphen =>
    split at role
    next =>
      simp only [Except.ok.injEq, WordRole.option.injEq] at role
      obtain ⟨rfl, -⟩ := role
      exact ⟨notMark, long, start⟩
    next =>
      split at role
      next => simp at role
      next several =>
        split at role
        next =>
          simp only [Except.ok.injEq, WordRole.option.injEq] at role
          obtain ⟨rfl, -⟩ := role
          have same : (String.ofList (splitAtEquals word.toList).1).toList =
            (splitAtEquals word.toList).1 := String.toList_ofList
          rw [same] at long
          have whole := List.prefix_refl (splitAtEquals word.toList).1
          refine ⟨notMark, long.trans start, ?_⟩
          simpa only [same] using whole
        next =>
          split at role
          next name value only =>
            simp only [Except.ok.injEq, WordRole.option.injEq] at role
            obtain ⟨rfl, rfl⟩ := role
            have member : (name, value) ∈ names.filterMap (candidate? word.toList) := by
              simp [only]
            obtain ⟨known, -, candidate⟩ := List.mem_filterMap.mp member
            obtain ⟨rfl, forms⟩ := candidate_cases _ _ _ _ candidate
            rcases forms with ⟨hyphens, starts⟩ | isShort | ⟨noHyphens, starts⟩
            · exact ⟨notMark, hyphens, starts⟩
            · have atMost := List.length_take_le 2 word.toList
              rw [← isShort] at atMost
              omega
            · refine absurd (hyphens_of_start _ _ long starts ?_) noHyphens
              have notEmpty : word.toList ≠ [] := by
                intro empty
                simp [empty] at hyphen
              have positive := List.length_pos_iff.mpr notEmpty
              omega
          next => split at role <;> simp at role
          next => simp at role

theorem texts_of_line (names line : List String) (words : List Word)
    (done : ofLine names line = .ok words) : words.map text = line := by
  induction line generalizing words with
  | nil =>
      cases done
      rfl
  | cons first rest induction =>
      unfold ofLine at done
      split_ifs at done with isMark
      · cases done
        simp [isMark, Function.comp_def]
      · cases role : roleOf names first with
        | error ambiguity => simp [role, bind, Except.bind] at done
        | ok role' =>
            cases others : ofLine names rest with
            | error ambiguity => simp [role, others, bind, Except.bind] at done
            | ok more =>
                simp only [role, others, bind, Except.bind, Except.ok.injEq] at done
                subst done
                rw [List.map_cons, induction more others]

/-- A word of a line stands for a long option only if it is the option or the start of it. -/
theorem none_names_of_line (names line : List String) (words : List Word) (option : String)
    (long : "--".toList <+: option.toList) (longer : 2 < option.toList.length)
    (unnamed : ∀ word ∈ line, ¬ NamesOption option word)
    (done : ofLine names line = .ok words) : Grammar.NoneNames option words := by
  induction line generalizing words with
  | nil =>
      cases done
      intro word member
      simp at member
  | cons first rest induction =>
      unfold ofLine at done
      split_ifs at done with isMark
      · cases done
        intro word member written
        rcases List.mem_cons.mp member with rfl | isOperand
        · simp
        · obtain ⟨operand, -, rfl⟩ := List.mem_map.mp isOperand
          simp
      · cases role : roleOf names first with
        | error ambiguity => simp [role, bind, Except.bind] at done
        | ok firstRole =>
            cases others : ofLine names rest with
            | error ambiguity => simp [role, others, bind, Except.bind] at done
            | ok more =>
                simp only [role, others, bind, Except.bind, Except.ok.injEq] at done
                subst done
                intro word member written
                rcases List.mem_cons.mp member with rfl | isOther
                · rintro rfl
                  exact unnamed first List.mem_cons_self
                    (role_of_long_option names option first written long longer isMark role)
                · exact induction more (fun other isRest =>
                    unnamed other (List.mem_cons_of_mem first isRest)) others word isOther written

end Word

namespace Grammar

variable {Settings : Type}

theorem complete_same (grammar : Grammar Settings) (reading after : Reading Settings)
    (done : grammar.complete reading = .ok after) : after = reading := by
  unfold complete at done
  split at done
  next =>
    split_ifs at done
    exact (Except.ok.inj done).symm
  next => simp at done

/-- A line without a word for the excepted option keeps what the other options keep, and leaves
only words of its own to a command. -/
theorem read_keeps (kept : Settings → Prop) (option : String) (grammar : Grammar Settings)
    (keeps : grammar.KeepsBut kept option) (long : "--".toList <+: option.toList)
    (longer : 2 < option.toList.length) (settings : Settings) (line : List String)
    (unnamed : ∀ word ∈ line, ¬ Word.NamesOption option word) (holds : kept settings)
    (after : Reading Settings) (done : grammar.read settings line = .ok after) :
    kept after.settings ∧ after.command ⊆ line := by
  have isLong : ∀ letter, String.ofList ['-', letter] ≠ option := by
    rintro letter rfl
    simp at longer
  unfold read at done
  split at done
  next => simp at done
  next words asWords =>
    simp only [bind, Except.bind] at done
    split at done
    next => simp at done
    next reading asReading =>
      obtain rfl := complete_same grammar _ _ done
      have reaches := read_words_reaches kept option grammar keeps isLong words
        (Word.none_names_of_line _ line words option long longer unnamed asWords) _ _ asReading
      refine ⟨reaches.settings holds, ?_⟩
      intro text left
      rcases reaches.command text left with impossible | amongWords
      · simp at impossible
      · rw [Word.texts_of_line _ line words asWords] at amongWords
        exact amongWords

end Grammar

namespace Command

/-- The settings ask for no writing. -/
def Unconfirmed (settings : CommandSettings) : Prop := settings.confirm = false

theorem add_unconfirmed (settings : CommandSettings) (name : String) (value : Json)
    (unconfirmed : Unconfirmed settings) : Unconfirmed (settings.add name value) := by
  unfold CommandSettings.add
  split
  · exact unconfirmed
  · exact unconfirmed

theorem demanded_keeps (rule : OptionRule CommandSettings) (keeps : rule.Keeps Unconfirmed) :
    rule.demanded.Keeps Unconfirmed :=
  keeps

theorem help_keeps : OptionRule.help.Keeps Unconfirmed := trivial

theorem switch_keeps (names : List String) (update : CommandSettings → CommandSettings)
    (keeps : ∀ settings, Unconfirmed settings → Unconfirmed (update settings)) :
    (OptionRule.ofSwitch names update).Keeps Unconfirmed :=
  keeps

theorem value_keeps (name : String) (update : GivenValue → CommandSettings → CommandSettings)
    (keeps : ∀ value settings, Unconfirmed settings → Unconfirmed (update value settings)) :
    (OptionRule.ofValue name update).Keeps Unconfirmed := by
  intro value settings result unconfirmed done
  cases done
  exact keeps value settings unconfirmed

theorem integer_keeps (name : String)
    (update : Option Int → CommandSettings → CommandSettings)
    (keeps : ∀ value settings, Unconfirmed settings → Unconfirmed (update value settings)) :
    (OptionRule.ofInteger name update).Keeps Unconfirmed := by
  intro value settings result unconfirmed done
  cases value with
  | nothing =>
      cases done
      exact keeps none settings unconfirmed
  | text text =>
      simp only at done
      split at done
      next integer _ =>
        cases done
        exact keeps (some integer) settings unconfirmed
      next => simp at done

theorem choice_keeps (name argument : String) (choices : List String) :
    (OptionRule.ofChoice name argument choices).Keeps Unconfirmed := by
  intro value settings result unconfirmed done
  cases value with
  | nothing =>
      cases done
      exact unconfirmed
  | text text =>
      simp only at done
      split_ifs at done
      cases done
      exact unconfirmed

theorem verbose_keeps : OptionRule.verbose.Keeps Unconfirmed :=
  switch_keeps _ _ fun _ unconfirmed => unconfirmed

theorem argument_keeps (name argument : String) :
    (OptionRule.ofArgument name argument).Keeps Unconfirmed :=
  value_keeps _ _ fun _ _ unconfirmed => unconfirmed

theorem list_argument_keeps (name argument : String) :
    (OptionRule.ofListArgument name argument).Keeps Unconfirmed :=
  value_keeps _ _ fun value settings => add_unconfirmed settings argument value.toJson

theorem line_grammar_keeps : lineGrammar.KeepsBut Unconfirmed "--confirm" := by
  refine { options := ?_, operand := trivial }
  simp only [lineGrammar, List.forall_mem_cons]
  refine ⟨Or.inr help_keeps, Or.inr verbose_keeps, Or.inr ?_, by simp⟩
  exact switch_keeps _ _ fun _ unconfirmed => unconfirmed

/-- Only the option for it confirms a writing. -/
theorem grammar_keeps (command : Command) :
    command.grammar.KeepsBut Unconfirmed "--confirm" := by
  cases command with
  | detect =>
      refine { options := ?_, operand := fun _ _ unconfirmed => unconfirmed }
      simp only [grammar, detectGrammar, List.forall_mem_cons]
      exact ⟨Or.inr help_keeps, Or.inr verbose_keeps, by simp⟩
  | short =>
      refine { options := ?_, operand := trivial }
      simp only [grammar, shortGrammar, List.forall_mem_cons]
      exact ⟨Or.inr help_keeps, Or.inr verbose_keeps,
        Or.inr (demanded_keeps _ (argument_keeps _ _)), Or.inr (argument_keeps _ _),
        Or.inr (list_argument_keeps _ _), by simp⟩
  | full =>
      refine { options := ?_, operand := fun _ _ unconfirmed => unconfirmed }
      simp only [grammar, fullGrammar, List.forall_mem_cons]
      refine ⟨Or.inr help_keeps, Or.inr verbose_keeps, Or.inr (argument_keeps _ _),
        Or.inr (argument_keeps _ _), Or.inr (list_argument_keeps _ _), Or.inr ?_, Or.inr ?_,
        Or.inr ?_, Or.inr (choice_keeps _ _ _), Or.inr ?_, Or.inl rfl, by simp⟩
      · exact switch_keeps _ _ fun _ unconfirmed => unconfirmed
      · exact switch_keeps _ _ fun _ unconfirmed => unconfirmed
      · exact integer_keeps _ _ fun _ _ unconfirmed => unconfirmed
      · exact value_keeps _ _ fun _ _ unconfirmed => unconfirmed
  | write =>
      refine { options := ?_, operand := fun _ _ unconfirmed => unconfirmed }
      simp only [grammar, writeGrammar, List.forall_mem_cons]
      refine ⟨Or.inr help_keeps, Or.inr verbose_keeps, Or.inr (argument_keeps _ _), Or.inr ?_,
        Or.inl rfl, by simp⟩
      exact value_keeps _ _ fun _ _ unconfirmed => unconfirmed
  | serve =>
      refine { options := ?_, operand := trivial }
      simp only [grammar, serveGrammar, List.forall_mem_cons]
      refine ⟨Or.inr help_keeps, Or.inr verbose_keeps, Or.inr ?_, Or.inr ?_, by simp⟩
      · exact value_keeps _ _ fun _ _ unconfirmed => unconfirmed
      · exact integer_keeps _ _ fun _ _ unconfirmed => unconfirmed

theorem read_command_keeps (settings : CommandSettings) (name : String) (words : List String)
    (unconfirmed : Unconfirmed settings)
    (unnamed : ∀ word ∈ words, ¬ Word.NamesOption "--confirm" word) (command : Command)
    (reading : Reading CommandSettings)
    (done : readCommand settings name words = .ok (command, reading)) :
    Unconfirmed reading.settings := by
  unfold readCommand at done
  split at done
  next => simp at done
  next known _ =>
    cases asRead : known.grammar.read settings words with
    | error stop => simp [asRead, Except.map] at done
    | ok result =>
        simp only [asRead, Except.map, Except.ok.injEq, Prod.mk.injEq] at done
        obtain ⟨-, rfl⟩ := done
        exact (Grammar.read_keeps Unconfirmed "--confirm" known.grammar (grammar_keeps known)
          (by decide) (by decide) settings words unnamed unconfirmed result asRead).1

/-- A line without a word for the option that confirms asks for no writing. -/
theorem unconfirmed_of_line (line : List String) (command : Command)
    (settings : CommandSettings)
    (unnamed : ∀ word ∈ line, ¬ Word.NamesOption "--confirm" word)
    (done : read line = .ok (command, settings)) : Unconfirmed settings := by
  unfold read at done
  cases asWhole : lineGrammar.read CommandSettings.none line with
  | error stop => simp [asWhole, bind, Except.bind] at done
  | ok whole =>
      obtain ⟨unconfirmed, words⟩ := Grammar.read_keeps Unconfirmed "--confirm" lineGrammar
        line_grammar_keeps (by decide) (by decide) CommandSettings.none line unnamed rfl whole
        asWhole
      simp only [asWhole, bind, Except.bind] at done
      split at done
      next => simp at done
      next pair asCommand =>
        split at done
        next =>
          simp only [Except.ok.injEq, Prod.mk.injEq] at done
          obtain ⟨rfl, rfl⟩ := done
          exact read_command_keeps whole.settings _ _ unconfirmed
            (fun word member => unnamed word (words (List.mem_of_mem_drop member))) pair.1 pair.2
            asCommand
        next => simp at done

end Command

end ReadmePress
