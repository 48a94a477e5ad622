import Mathlib.Computability.Language
import ReadmePress.Glob

/-!
What patterns mean. A token stands for a language and a pattern for the concatenation of the
languages of its tokens; a pattern matches exactly the paths in its language. A pattern has one
reading: at each place it takes the first token, in a fixed order, that can stand there.
-/

/-- Sets of texts with their unions and products. Not in the namespace of the project, where a
language is that of a document. -/
abbrev TextLanguage := Language Char

namespace ReadmePress

/-- Texts without a line feed. -/
def oneLine : TextLanguage := {text | '\n' ∉ text}

namespace GlobToken

/-- The texts that a token stands for. -/
def language : GlobToken → TextLanguage
  | .directories => 1 + oneLine * {['/']}
  | .subtree => 1 + {['/']} * oneLine
  | .anything => oneLine
  | .anyName => {text | '/' ∉ text}
  | .anyCharacter => {text | ∃ character, character ≠ '/' ∧ text = [character]}
  | .literal character => {[character]}

/-- How a token is written. -/
def spelling : GlobToken → List Char
  | .directories => ['*', '*', '/']
  | .subtree => ['/', '*', '*']
  | .anything => ['*', '*']
  | .anyName => ['*']
  | .anyCharacter => ['?']
  | .literal character => [character]

/-- Whether a pattern can start with a token. A subtree must be all that is left of it. -/
def canStart (pattern : List Char) (token : GlobToken) : Bool :=
  if token = .subtree then pattern == token.spelling else token.spelling.isPrefixOf pattern

/-- The tokens that are tried in this order where a character comes next. -/
def candidates (next : Char) : List GlobToken :=
  [.directories, .subtree, .anything, .anyName, .anyCharacter, .literal next]

/-- The token that a pattern starts with. -/
def first? (pattern : List Char) : Option GlobToken :=
  pattern.head?.bind fun next => (candidates next).find? (canStart pattern)

end GlobToken

namespace Glob

/-- The paths that a pattern stands for. -/
def language (glob : Glob) : TextLanguage := (glob.map GlobToken.language).prod

/-- The reading of a pattern: the token that it starts with, and the reading of what is left. -/
inductive Reads : List Char → Glob → Prop where
  | done : Reads [] []
  | token (pattern : List Char) (token : GlobToken) (tokens : Glob)
      (first : GlobToken.first? pattern = some token)
      (others : Reads (pattern.drop token.spelling.length) tokens) :
      Reads pattern (token :: tokens)

theorem not_starts_with (character : Char) (text others : List Char)
    (other : ∀ rest, text ≠ character :: rest) : (character :: others).isPrefixOf text = false := by
  cases text with
  | nil => rfl
  | cons first rest =>
      have different : character ≠ first := by
        rintro rfl
        exact other rest rfl
      simp [List.isPrefixOf, different]

theorem of_chars_step (pattern : List Char) (notEmpty : pattern ≠ []) :
    ∃ token, GlobToken.first? pattern = some token ∧ 0 < token.spelling.length ∧
      ofChars pattern = token :: ofChars (pattern.drop token.spelling.length) := by
  fun_cases ofChars pattern with
  | case1 => exact absurd rfl notEmpty
  | case2 rest => exact ⟨.directories, rfl, by decide, rfl⟩
  | case3 => exact ⟨.subtree, rfl, by decide, rfl⟩
  | case4 rest noSlash =>
      have notDirectories := not_starts_with '/' rest [] noSlash
      refine ⟨.anything, ?_, by decide, rfl⟩
      simp [GlobToken.first?, GlobToken.candidates, GlobToken.canStart, GlobToken.spelling,
        notDirectories]
  | case5 rest _ noStar =>
      have noStars := fun others => not_starts_with '*' rest others noStar
      refine ⟨.anyName, ?_, by decide, rfl⟩
      simp [GlobToken.first?, GlobToken.candidates, GlobToken.canStart, GlobToken.spelling,
        noStars]
  | case6 rest => exact ⟨.anyCharacter, rfl, by decide, rfl⟩
  | case7 character rest _ noSubtree _ noStar noQuestion =>
      have notStar : '*' ≠ character := fun same => noStar same.symm
      have notQuestion : '?' ≠ character := fun same => noQuestion same.symm
      refine ⟨.literal character, ?_, Nat.one_pos, rfl⟩
      simp [GlobToken.first?, GlobToken.candidates, GlobToken.canStart, GlobToken.spelling,
        List.isPrefixOf, notStar, notQuestion]
      exact not_and_or.mp fun both => noSubtree both.1 both.2

theorem reads_of_chars (pattern : List Char) : Reads pattern (ofChars pattern) := by
  by_cases empty : pattern = []
  · subst empty
    exact .done
  · obtain ⟨token, first, taken, step⟩ := of_chars_step pattern empty
    rw [step]
    exact .token pattern token _ first (reads_of_chars (pattern.drop token.spelling.length))
termination_by pattern.length
decreasing_by
  have notEmpty := List.length_pos_iff.mpr empty
  rw [List.length_drop]
  omega

/-- A pattern has one reading. -/
theorem reads_iff (pattern : List Char) (glob : Glob) :
    Reads pattern glob ↔ glob = ofChars pattern := by
  constructor
  · intro reads
    induction reads with
    | done => rfl
    | token pattern token tokens first _ induction =>
        have notEmpty : pattern ≠ [] := by
          rintro rfl
          simp [GlobToken.first?] at first
        obtain ⟨other, firstOther, -, step⟩ := of_chars_step pattern notEmpty
        rw [step, induction, Option.some.inj (first.symm.trans firstOther)]
  · rintro rfl
    exact reads_of_chars pattern

-- Two stars go before one, and a slash goes with the stars after it only at the end.
example : ofString "***/" = [.anything, .anyName, .literal '/'] := by decide
example : ofString "/**/" = [.literal '/', .directories] := by decide

/-- The texts that a test accepts. -/
def accepted (accepts : List Char → Bool) : TextLanguage := {text | accepts text = true}

/-- The texts of admitted characters. -/
def runs (admits : Char → Bool) : TextLanguage :=
  {text | ∀ character ∈ text, admits character = true}

/-- The texts of one admitted character. -/
def singles (admits : Char → Bool) : TextLanguage :=
  {text | ∃ character, admits character = true ∧ text = [character]}

theorem accepted_run (admits : Char → Bool) (accepts : List Char → Bool) :
    accepted (matchesRun admits accepts) = runs admits * accepted accepts := by
  ext text
  rw [Language.mem_mul]
  change matchesRun admits accepts text = true ↔ _
  induction text with
  | nil =>
      simp only [matchesRun, List.append_eq_nil_iff]
      constructor
      · exact fun isAccepted => ⟨[], nofun, [], isAccepted, rfl, rfl⟩
      · rintro ⟨-, -, back, isAccepted, -, rfl⟩
        exact isAccepted
  | cons character rest induction =>
      rw [matchesRun, Bool.or_eq_true, Bool.and_eq_true, induction]
      constructor
      · rintro (isAccepted | ⟨admitted, front, run, back, isAccepted, rfl⟩)
        · exact ⟨[], nofun, character :: rest, isAccepted, rfl⟩
        · exact ⟨character :: front, List.forall_mem_cons.mpr ⟨admitted, run⟩, back, isAccepted,
            rfl⟩
      · rintro ⟨front, run, back, isAccepted, whole⟩
        cases front with
        | nil =>
            rw [List.nil_append] at whole
            exact Or.inl (whole ▸ isAccepted)
        | cons first more =>
            obtain ⟨rfl, rfl⟩ := List.cons.inj whole
            obtain ⟨admitted, run⟩ := List.forall_mem_cons.mp run
            exact Or.inr ⟨admitted, more, run, back, isAccepted, rfl⟩

theorem accepted_after_slash (accepts : List Char → Bool) :
    accepted (afterSlash accepts) = {['/']} * accepted accepts := by
  ext text
  rw [Language.mem_mul]
  change afterSlash accepts text = true ↔ _
  constructor
  · intro isAccepted
    unfold afterSlash at isAccepted
    split at isAccepted
    next rest => exact ⟨['/'], rfl, rest, isAccepted, rfl⟩
    next => exact absurd isAccepted Bool.false_ne_true
  · rintro ⟨slash, rfl, back, isAccepted, rfl⟩
    exact isAccepted

theorem accepted_or (accepts others : List Char → Bool) :
    accepted (fun text => accepts text || others text) = accepted accepts + accepted others := by
  ext text
  rw [Language.mem_add]
  exact Bool.or_eq_true_iff

theorem accepted_first (admits : Char → Bool) (accepts : List Char → Bool) :
    accepted (fun text => match text with
      | [] => false
      | character :: rest => admits character && accepts rest) =
      singles admits * accepted accepts := by
  ext text
  rw [Language.mem_mul]
  constructor
  · intro isAccepted
    cases text with
    | nil => exact absurd isAccepted Bool.false_ne_true
    | cons character rest =>
        obtain ⟨admitted, isAccepted⟩ := (Bool.and_eq_true _ _).mp isAccepted
        exact ⟨[character], ⟨character, admitted, rfl⟩, rest, isAccepted, rfl⟩
  · rintro ⟨_, ⟨character, admitted, rfl⟩, back, isAccepted, rfl⟩
    exact (Bool.and_eq_true _ _).mpr ⟨admitted, isAccepted⟩

theorem runs_without (mark : Char) : runs (· != mark) = {text | mark ∉ text} := by
  ext text
  change (∀ character ∈ text, (character != mark) = true) ↔ mark ∉ text
  simp only [bne_iff_ne]
  constructor
  · exact fun run member => run mark member rfl
  · exact fun absent character member same => absent (same ▸ member)

theorem singles_without (mark : Char) :
    singles (· != mark) = {text | ∃ character, character ≠ mark ∧ text = [character]} := by
  ext text
  change (∃ character, (character != mark) = true ∧ text = [character]) ↔
    ∃ character, character ≠ mark ∧ text = [character]
  simp only [bne_iff_ne]

theorem singles_of (expected : Char) : singles (· == expected) = {[expected]} := by
  ext text
  change (∃ character, (character == expected) = true ∧ text = [character]) ↔ text = [expected]
  simp only [beq_iff_eq, exists_eq_left]

/-- A pattern matches exactly the texts in its language. -/
theorem accepted_matches (glob : Glob) : accepted glob.matchesChars = glob.language := by
  induction glob with
  | nil =>
      ext text
      exact List.isEmpty_iff
  | cons token tokens induction =>
      have whole : language (token :: tokens) =
          token.language * accepted (matchesChars tokens) := by
        rw [induction]
        rfl
      rw [whole]
      cases token with
      | directories =>
          rw [GlobToken.language, add_mul, one_mul, mul_assoc, ← accepted_after_slash, oneLine,
            ← runs_without, ← accepted_run, ← accepted_or]
          rfl
      | subtree =>
          rw [GlobToken.language, add_mul, one_mul, mul_assoc, oneLine, ← runs_without,
            ← accepted_run, ← accepted_after_slash, ← accepted_or]
          rfl
      | anything =>
          rw [GlobToken.language, oneLine, ← runs_without, ← accepted_run]
          rfl
      | anyName =>
          rw [GlobToken.language, ← runs_without, ← accepted_run]
          rfl
      | anyCharacter =>
          rw [GlobToken.language, ← singles_without, ← accepted_first]
          rfl
      | literal expected =>
          rw [GlobToken.language, ← singles_of, ← accepted_first]
          rfl

theorem matches_path_iff (glob : Glob) (path : String) :
    glob.matchesPath path = true ↔ path.toList ∈ glob.language := by
  rw [← accepted_matches]
  exact Iff.rfl

/-- A path lies in the language of the tokens that a pattern reads as. -/
def Denotes (pattern path : String) : Prop :=
  ∃ glob, Reads pattern.toList glob ∧ path.toList ∈ glob.language

theorem matches_iff_denotes (pattern path : String) :
    (ofString pattern).matchesPath path = true ↔ Denotes pattern path := by
  rw [matches_path_iff]
  constructor
  · exact fun member => ⟨_, reads_of_chars pattern.toList, member⟩
  · rintro ⟨glob, reads, member⟩
    rw [(reads_iff _ _).mp reads] at member
    exact member

end Glob

namespace GlobSet

theorem excludes_of_patterns (included excluded : List String) (path : String) :
    (ofPatterns included excluded).excludes path = false ↔
      ∀ pattern ∈ excluded, (Glob.ofString pattern).matchesPath path = false := by
  simp [ofPatterns, excludes]

theorem selects_of_patterns (included excluded : List String) (path : String) :
    (ofPatterns included excluded).selects path = true ↔
      (∃ pattern ∈ included, (Glob.ofString pattern).matchesPath path = true) ∧
        ∀ pattern ∈ excluded, (Glob.ofString pattern).matchesPath path = false := by
  rw [selects, Bool.and_eq_true, Bool.not_eq_true', excludes_of_patterns]
  simp [ofPatterns, includes]

/-- A pattern has exactly one reading and matches the paths in the language of its tokens. A set
of patterns selects the paths that an included pattern matches and no excluded one. -/
theorem patterns_match_languages (included excluded : List String) (path : String) :
    (∀ pattern : String, (∃! glob, Glob.Reads pattern.toList glob) ∧
      ((Glob.ofString pattern).matchesPath path = true ↔ Glob.Denotes pattern path)) ∧
    ((ofPatterns included excluded).selects path = true ↔
      (∃ pattern ∈ included, Glob.Denotes pattern path) ∧
        ∀ pattern ∈ excluded, ¬ Glob.Denotes pattern path) := by
  constructor
  · intro pattern
    have unique : ∃! glob, Glob.Reads pattern.toList glob :=
      ⟨_, Glob.reads_of_chars pattern.toList, fun glob => (Glob.reads_iff _ glob).mp⟩
    exact ⟨unique, Glob.matches_iff_denotes pattern path⟩
  · rw [selects_of_patterns]
    simp only [← Glob.matches_iff_denotes, Bool.not_eq_true]

end GlobSet

end ReadmePress
