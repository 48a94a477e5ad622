import ReadmePress.Proofs.Facts.Settings
import ReadmePress.Proofs.Facts.WideFacts
import ReadmePress.Proofs.Tools.Confirmation

/-!
Options stay valid on their way into a document. Arguments and settings are each checked when they
are read, so what is resolved from both can be taken as options, and nothing further on can refuse
it: a directory is listed to that depth, and the phrases of that language are found.
-/

namespace ReadmePress

open ReadmePress.Text

/-- The value of one option: the explicit one, else that of the settings, else the default. -/
def IsChosen {Value : Type} (explicit configured : Option Value) (default chosen : Value) : Prop :=
  explicit = some chosen ∨
    (explicit = none ∧ (configured = some chosen ∨ (configured = none ∧ chosen = default)))

theorem chosen_of_or {Value : Type} (explicit configured : Option Value) (default : Value) :
    IsChosen explicit configured default ((explicit.or configured).getD default) := by
  cases explicit with
  | some value => exact Or.inl rfl
  | none =>
      cases configured with
      | some value => exact Or.inr ⟨rfl, Or.inl rfl⟩
      | none => exact Or.inr ⟨rfl, Or.inr ⟨rfl, rfl⟩⟩

/-- Phrases kept under the codes of their languages. -/
def Language.table {Phrases : Type} (phrases : Language → Phrases) :
    OrderedMap String Phrases :=
  Language.all.map fun language => (language.code, phrases language)

theorem find_in_table {Phrases : Type} (phrases : Language → Phrases) (code : String)
    (language : Language) (known : Language.ofCode? code = some language) :
    (Language.table phrases).find? code = some (phrases language) := by
  have isCode : language.code = code := by
    simpa using List.find?_some known
  rw [← isCode]
  cases language <;> rfl

/-- Options that are asked for and can all be taken. -/
structure OptionRequest.IsValid (request : OptionRequest) : Prop where
  depth : ∀ depth, request.depth = some depth → 1 ≤ depth ∧ depth ≤ 5
  language : ∀ code, request.language = some code → code ∈ Language.all.map Language.code

namespace OptionRequest

theorem of_valid_settings (settings : Settings) (valid : settings.IsValid) :
    settings.options.IsValid where
  depth := valid.depth
  language := by
    intro code asked
    have known := valid.language
    rw [asked] at known
    simpa [Language.all, Language.code] using known

theorem or_else_valid (first second : OptionRequest) (firstValid : first.IsValid)
    (secondValid : second.IsValid) : (first.orElse second).IsValid where
  depth := by
    intro depth asked
    rcases Option.or_eq_some_iff.mp asked with explicit | ⟨-, configured⟩
    · exact firstValid.depth depth explicit
    · exact secondValid.depth depth configured
  language := by
    intro code asked
    rcases Option.or_eq_some_iff.mp asked with explicit | ⟨-, configured⟩
    · exact firstValid.language code explicit
    · exact secondValid.language code configured

end OptionRequest

theorem known_code (code : String) (known : code ∈ Language.all.map Language.code) :
    ∃ language, Language.ofCode? code = some language := by
  obtain ⟨language, -, rfl⟩ := List.mem_map.mp known
  exact ⟨language, Language.ofCode?_code language⟩

/-- A valid request gives options, each the value asked for or its default. -/
theorem options_of_valid (request : OptionRequest) (valid : request.IsValid) :
    ∃ options, DocumentOptions.ofRequest request = .ok options ∧
      options.badges = request.badges.getD true ∧ options.toc = request.toc.getD true ∧
      options.depth = request.depth.getD 2 ∧
      Language.ofCode? (request.language.getD "zh") = some options.language ∧
      1 ≤ options.depth ∧ options.depth ≤ 5 := by
  have depth : 1 ≤ request.depth.getD 2 ∧ request.depth.getD 2 ≤ 5 := by
    cases asked : request.depth with
    | none => decide
    | some depth => exact valid.depth depth asked
  obtain ⟨language, known⟩ : ∃ language,
      Language.ofCode? (request.language.getD "zh") = some language := by
    cases asked : request.language with
    | none => exact ⟨.chinese, by decide⟩
    | some code => exact known_code code (valid.language code asked)
  have taken : isValidDepth (request.depth.getD DocumentOptions.default.depth) = true :=
    (Settings.valid_depth_iff _).mpr depth
  have code : Language.ofCode? (request.language.getD DocumentOptions.default.language.code) =
      some language := known
  refine ⟨{ badges := request.badges.getD true, toc := request.toc.getD true,
            depth := request.depth.getD 2, language := language }, ?_, rfl, rfl, rfl, known, depth⟩
  rw [DocumentOptions.ofRequest, taken, code]
  rfl

section Arguments

/-- A value that is read for an argument comes from a value that was given. -/
theorem optional_argument {Value : Type} (argument : Argument) (reader : Reader Value)
    (members : Members) (value : Value)
    (given : argument.optional reader members = .ok (some value)) :
    ∃ input, reader input = .ok value := by
  simp only [Argument.optional, Argument.withDefault] at given
  split at given
  next name input _ =>
    rw [Tool.within_eq_ok] at given
    unfold Reader.optional at given
    split at given
    next => exact absurd given nofun
    next =>
      cases read : reader input with
      | error issues => simp [read, Except.map] at given
      | ok held =>
          obtain rfl : held = value := by simpa [read, Except.map] using given
          exact ⟨input, read⟩
  next => exact absurd given nofun

theorem integer_in_bounds (least greatest : Int) (input : Json) (value : Int)
    (read : Reader.integer least greatest input = .ok value) :
    least ≤ value ∧ value ≤ greatest := by
  rw [Reader.integer] at read
  cases any : Reader.anyInteger input with
  | error issues => simp [any, bind, Except.bind] at read
  | ok found =>
      simp only [any, bind, Except.bind] at read
      split at read
      next => exact absurd read nofun
      next notBelow =>
        split at read
        next => exact absurd read nofun
        next notAbove =>
          obtain rfl := Except.ok.inj read
          exact ⟨Int.not_lt.mp notBelow, Int.not_lt.mp notAbove⟩

theorem choice_of_choices (choices : List String) (input : Json) (value : String)
    (read : Reader.choice choices input = .ok value) : value ∈ choices := by
  unfold Reader.choice at read
  split at read
  next =>
    split at read
    next found =>
      obtain rfl := Except.ok.inj read
      exact List.mem_of_find?_eq_some found
    next => exact absurd read nofun
  next => exact absurd read nofun

/-- The options among arguments that have been read are valid. -/
theorem accepted_options_valid (members : Members) (arguments : FullArguments)
    (accepted : FullArguments.read members = .ok arguments) : arguments.options.IsValid := by
  unfold FullArguments.read at accepted
  simp only at accepted
  split at accepted
  next directory name description extraFeatures badges toc depth language _ _ _ _ _ _ asDepth
      asLanguage =>
    obtain rfl := Except.ok.inj accepted
    constructor
    case depth =>
      intro value asked
      rw [show depth = some value from asked] at asDepth
      obtain ⟨input, read⟩ := optional_argument _ _ _ _ asDepth
      exact integer_in_bounds _ _ input value read
    case language =>
      intro code asked
      rw [show language = some code from asked] at asLanguage
      obtain ⟨input, read⟩ := optional_argument _ _ _ _ asLanguage
      exact choice_of_choices _ input code read
  next => exact absurd accepted nofun

end Arguments

namespace Workspace

/-- Settings of a directory are valid, whether its own or the default ones. -/
theorem directory_settings_valid (workspace : Workspace) (directory : Path) (settings : Settings)
    (given : (workspace.directorySettings directory).outcome = .ok settings) :
    settings.IsValid := by
  unfold directorySettings at given
  rcases workspace.load_settings_cases directory with
    ⟨-, loaded, found, valid⟩ | ⟨-, fault, failed, absorbed⟩ | ⟨-, fault, failed, passedOn⟩
  · simp only [found] at given
    obtain rfl := Except.ok.inj given
    exact valid
  · simp only [failed, absorbed, if_true] at given
    obtain rfl := Except.ok.inj given
    exact Settings.default_is_valid directory
  · simp only [failed, passedOn, Bool.false_eq_true, if_false] at given
    exact absurd given nofun

theorem loaded_settings_valid (workspace : Workspace) (place : Path) (settings : Settings)
    (loaded : workspace.loadSettings place = .ok settings) : settings.IsValid := by
  rcases workspace.load_settings_cases place with
    ⟨-, found, same, valid⟩ | ⟨-, fault, failed, -⟩ | ⟨-, fault, failed, -⟩
  · cases same.symm.trans loaded
    exact valid
  · exact absurd (failed.symm.trans loaded) nofun
  · exact absurd (failed.symm.trans loaded) nofun

/-- A depth in bounds is no reason not to list a directory. -/
theorem depth_is_listed (workspace : Workspace) (root : Path) (depth : Int)
    (exclusions : List String) (valid : 1 ≤ depth ∧ depth ≤ 5) :
    workspace.listDirectory root depth exclusions ≠ .error .depthOutOfRange := by
  rw [listDirectory, (Settings.valid_depth_iff depth).mpr valid, Bool.not_true,
    if_neg Bool.false_ne_true]
  split <;> nofun

theorem reading_is_no_option (fault : ReadingFault) :
    (∀ refused, Failure.ofReading fault ≠ .options refused) ∧
      Failure.ofReading fault ≠ .listing .depthOutOfRange := by
  cases fault <;> exact ⟨nofun, nofun⟩

/-- Collecting the facts for a valid request does not fail for an option. -/
theorem collected_without_options_fault (workspace : Workspace) (directory : Path)
    (request : FactsRequest) (valid : request.options.IsValid)
    (own : request.settings = none) (fault : Failure)
    (failed : (workspace.collectFacts directory request).outcome = .error fault) :
    (∀ refused, fault ≠ .options refused) ∧ fault ≠ .listing .depthOutOfRange := by
  rcases Traced.bind_error _ _ _ failed with unset | ⟨settings, given, failed⟩
  · simp only [own, settingsFor] at unset
    obtain ⟨cause, -, rfl⟩ := map_error_error _ _ _ unset
    exact ⟨nofun, nofun⟩
  rcases Traced.bind_error _ _ _ failed with unread | ⟨manifest, -, failed⟩
  · rcases Traced.bind_error _ _ _ unread with broken | ⟨found, -, unrecorded⟩
    · obtain ⟨cause, -, rfl⟩ := map_error_error _ _ _ broken
      exact reading_is_no_option cause
    · cases found <;> exact absurd unrecorded nofun
  simp only [own, settingsFor] at given
  have settingsValid :=
    directory_settings_valid workspace directory settings ((map_error_ok_iff _ _ _).mp given)
  obtain ⟨options, taken, -, -, -, -, depth⟩ := options_of_valid _ (OptionRequest.or_else_valid _ _
    valid (OptionRequest.of_valid_settings settings settingsValid))
  rcases Traced.bind_error _ _ _ failed with refused | ⟨other, same, failed⟩
  · simp only [Traced.ofExcept, taken] at refused
    exact absurd refused nofun
  simp only [Traced.ofExcept, taken] at same
  obtain rfl := Except.ok.inj same
  rcases Traced.bind_error _ _ _ failed with unencodable | ⟨badges, -, failed⟩
  · simp only [Traced.ofExcept] at unencodable
    split at unencodable
    next =>
      obtain ⟨cause, -, rfl⟩ := map_error_error _ _ _ unencodable
      exact ⟨nofun, nofun⟩
    next => exact absurd unencodable nofun
  rcases Traced.bind_error _ _ _ failed with unnamed | ⟨name, -, failed⟩
  · obtain ⟨cause, -, rfl⟩ := map_error_error _ _ _ unnamed
    exact ⟨nofun, nofun⟩
  rcases Traced.bind_error _ _ _ failed with unlisted | ⟨listing, -, failed⟩
  · obtain ⟨cause, refused, rfl⟩ := map_error_error _ _ _ unlisted
    cases cause with
    | depthOutOfRange => exact absurd refused (depth_is_listed workspace directory _ _ depth)
    | file cause => exact ⟨nofun, nofun⟩
  rcases Traced.bind_error _ _ _ failed with unread | ⟨routes, -, failed⟩
  · obtain ⟨cause, -, rfl⟩ := map_error_error _ _ _ unread
    exact reading_is_no_option cause
  rcases Traced.bind_error _ _ _ failed with unread | ⟨keys, -, failed⟩
  · obtain ⟨cause, -, rfl⟩ := map_error_error _ _ _ unread
    exact reading_is_no_option cause
  rcases Traced.bind_error _ _ _ failed with unrecorded | ⟨_, -, failed⟩
  · exact absurd unrecorded nofun
  exact absurd failed nofun

/-- Whatever settings have been loaded and whatever arguments accepted, their options can be
taken, each the explicit one, else that of the settings, else the default. A sheet that carries
them is listed to a depth in bounds and finds all phrases under its language's code. -/
theorem resolved_options_hold (workspace : Workspace) (place : Path) (settings : Settings)
    (members : Members) (arguments : FullArguments)
    (loaded : workspace.loadSettings place = .ok settings ∨
      (workspace.directorySettings place).outcome = .ok settings)
    (accepted : FullArguments.read members = .ok arguments) :
    (∃ options code,
      DocumentOptions.ofRequest (arguments.options.orElse settings.options) = .ok options ∧
      IsChosen arguments.options.badges settings.options.badges true options.badges ∧
      IsChosen arguments.options.toc settings.options.toc true options.toc ∧
      IsChosen arguments.options.depth settings.options.depth 2 options.depth ∧
      IsChosen arguments.options.language settings.options.language "zh" code ∧
      ∀ sheet : FactSheet, sheet.options = options →
        (∀ (project : Workspace) (root : Path) (exclusions : List String),
          project.listDirectory root sheet.options.depth exclusions ≠ .error .depthOutOfRange) ∧
        ∀ {Phrases : Type} (phrases : Language → Phrases),
          (Language.table phrases).find? code = some (phrases sheet.options.language)) ∧
      ∀ fault, (workspace.describe arguments).outcome = .error fault →
        (∀ refused, fault ≠ .options refused) ∧ fault ≠ .listing .depthOutOfRange := by
  have settingsValid : settings.IsValid :=
    loaded.elim (loaded_settings_valid workspace place settings)
      (directory_settings_valid workspace place settings)
  have explicitValid := accepted_options_valid members arguments accepted
  constructor
  · obtain ⟨options, taken, badges, toc, depth, known, bounds⟩ := options_of_valid _
      (OptionRequest.or_else_valid _ _ explicitValid
        (OptionRequest.of_valid_settings settings settingsValid))
    refine ⟨options, _, taken, ?_, ?_, ?_, chosen_of_or _ _ _, ?_⟩
    · rw [badges]
      exact chosen_of_or _ _ _
    · rw [toc]
      exact chosen_of_or _ _ _
    · rw [depth]
      exact chosen_of_or _ _ _
    · rintro sheet rfl
      exact ⟨fun project root exclusions => depth_is_listed project root _ exclusions bounds,
        fun phrases => find_in_table phrases _ _ known⟩
  · intro fault failed
    rcases Traced.bind_error _ _ _ failed with uncollected | ⟨facts, -, unwritten⟩
    · exact collected_without_options_fault workspace _ _ explicitValid rfl fault uncollected
    · rw [document_of_error facts fault unwritten]
      exact ⟨nofun, nofun⟩

/-- Settings that ask for badges and English. -/
def englishText : String := "readme: \x7blanguage: en, badges: true\x7d\n"

/-- Arguments that ask for no badges and for a depth. -/
def withoutBadges : Members :=
  [(WideText.ofString "addBadges", .bool false), (WideText.ofString "maxTreeDepth", .integer 3)]

theorem explicit_false_over_settings :
    ∃ settings arguments options code,
      (settingsAlone englishText).loadSettings (Path.ofString ".") = .ok settings ∧
      FullArguments.read withoutBadges = .ok arguments ∧
      DocumentOptions.ofRequest (arguments.options.orElse settings.options) = .ok options ∧
      IsChosen (some false) (some true) true options.badges ∧
      IsChosen (some 3) none 2 options.depth ∧ IsChosen none (some "en") "zh" code ∧
      (Language.table Language.quickstart).find? code = some options.language.quickstart := by
  have loaded : (settingsAlone englishText).loadSettings (Path.ofString ".") =
      .ok
        { root := Path.ofLocation []
          options := { badges := some true, toc := none, depth := none, language := some "en" }
          extraFeatures := []
          exclusions := [] } :=
    (settings_alone_load englishText (by decide)).trans (by decide +kernel)
  have accepted : FullArguments.read withoutBadges =
      .ok
        { directory := none
          name := none
          description := none
          extraFeatures := none
          options := { badges := some false, toc := none, depth := some 3, language := none } } :=
    rfl
  obtain ⟨⟨options, code, taken, badges, -, depth, language, found⟩, -⟩ :=
    resolved_options_hold _ _ _ _ _ (Or.inl loaded) accepted
  exact ⟨_, _, options, code, loaded, accepted, taken, badges, depth, language,
    (found { FactSheet.ofName "demo" with options := options } rfl).2 Language.quickstart⟩

end Workspace

end ReadmePress
