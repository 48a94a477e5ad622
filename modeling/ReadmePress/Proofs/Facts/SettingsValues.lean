import ReadmePress.Facts.Settings
import ReadmePress.Proofs.Outcome

/-!
What the mapping in a settings file means. The language and the depth can be wrong, and an
integer that is taken for text can have too many digits to be written; all else is taken or left
out. Settings that come of a mapping have a known language or none and a depth in bounds or none.
-/

namespace ReadmePress

/-- Faults of a file that says what no settings say. -/
def SettingsFault.isRejection : SettingsFault → Bool
  | .notUtf8 _ _ => true
  | .malformed _ => true
  | .notMapping => true
  | .unsupportedLanguage => true
  | .depthOutOfRange => true
  | _ => false

namespace Settings

open ReadmePress.Number ReadmePress.Text

/-- Settings that options can be taken from. -/
structure IsValid (settings : Settings) : Prop where
  language : settings.options.language ∈ [none, some "zh", some "en"]
  depth : ∀ depth, settings.options.depth = some depth → 1 ≤ depth ∧ depth ≤ 5

theorem default_is_valid (root : Path) : (default root).IsValid :=
  { language := List.mem_cons_self
    depth := nofun }

/-- An integer with too many digits to be written. -/
def IsOverlong (number : Int) : Prop := digitLimit < (natDigits number.natAbs).length

/-- The node under a name in the block of options. -/
def option? (document : Yaml.Document) (name : String) : Option Yaml.NodeId :=
  ((document.entry? document.root "readme").filter fun id =>
    document.value id == .mapping).bind fun block => document.entry? block name

/-- The language reads as a text that is the code of none. -/
def NamesNoLanguage (document : Yaml.Document) : Prop :=
  ∃ id text, option? document "language" = some id ∧
    scalarText? (document.value id) = .ok (some text) ∧
    text ≠ WideText.ofString "zh" ∧ text ≠ WideText.ofString "en"

/-- The depth reads as an integer out of bounds. -/
def HasDepthOutOfRange (document : Yaml.Document) : Prop :=
  ∃ id depth, option? document "max_tree_depth" = some id ∧
    integer? (document.value id) = some depth ∧ ¬ (1 ≤ depth ∧ depth ≤ 5)

/-- The language is an integer that cannot be written. -/
def HasOverlongLanguage (document : Yaml.Document) : Prop :=
  ∃ id number, option? document "language" = some id ∧ document.value id = .integer number ∧
    IsOverlong number

/-- A list with an integer in it that cannot be written. -/
def ListsOverlong (document : Yaml.Document) (node : Option Yaml.NodeId) : Prop :=
  ∃ id, node = some id ∧ document.value id = .sequence ∧
    ∃ item ∈ document.items id, ∃ number, document.value item = .integer number ∧
      IsOverlong number

/-- An integer is to be written that cannot be: the language, or, where language and depth are
right, an item of one of the two lists of texts. -/
def WritesOverlong (document : Yaml.Document) : Prop :=
  HasOverlongLanguage document ∨
    (¬ NamesNoLanguage document ∧ ¬ HasDepthOutOfRange document ∧
      (ListsOverlong document (option? document "extra_features") ∨
        ListsOverlong document (document.entry? document.root "exclude_paths")))

/-- The fault of an integer that cannot be written. -/
def overlong : SettingsFault := .integer (.tooLong none)

theorem write_decimal_cases (number : Int) :
    (IsOverlong number ∧ writeDecimal number = .error (.tooLong none)) ∨
      (¬ IsOverlong number ∧ ∃ digits, writeDecimal number = .ok digits) := by
  by_cases long : IsOverlong number
  · exact Or.inl ⟨long, if_pos long⟩
  · exact Or.inr ⟨long, _, if_neg long⟩

theorem scalar_text_cases (value : Yaml.Value) :
    ((∃ number, value = .integer number ∧ IsOverlong number) ∧
        scalarText? value = .error overlong) ∨
      (¬ (∃ number, value = .integer number ∧ IsOverlong number) ∧
        ∃ text, scalarText? value = .ok text) := by
  cases value with
  | integer number =>
      rcases write_decimal_cases number with ⟨long, written⟩ | ⟨short, digits, written⟩
      · exact Or.inl ⟨⟨number, rfl, long⟩, by simp [scalarText?, written, overlong]⟩
      · refine Or.inr ⟨?_, _, by rw [scalarText?, written]⟩
        rintro ⟨other, same, long⟩
        cases same
        exact short long
  | _ => exact Or.inr ⟨by simp, _, rfl⟩

theorem language_of_code_cases (code : WideText) :
    ((code ≠ WideText.ofString "zh" ∧ code ≠ WideText.ofString "en") ∧
        (WideText.toString? code).bind Language.ofCode? = none) ∨
      (¬ (code ≠ WideText.ofString "zh" ∧ code ≠ WideText.ofString "en") ∧
        ∃ language, (WideText.toString? code).bind Language.ofCode? = some language) := by
  cases found : (WideText.toString? code).bind Language.ofCode? with
  | none =>
      refine Or.inl ⟨?_, rfl⟩
      constructor
      · rintro rfl
        exact absurd found (by decide)
      · rintro rfl
        exact absurd found (by decide)
  | some language =>
      refine Or.inr ⟨?_, language, rfl⟩
      rintro ⟨notChinese, notEnglish⟩
      obtain ⟨text, isText, known⟩ := Option.bind_eq_some_iff.mp found
      rw [WideText.toString?_eq_some_iff] at isText
      rw [Language.ofCode?] at known
      have isCode := List.find?_some known
      rw [decide_eq_true_eq] at isCode
      rw [← isCode] at isText
      cases language with
      | chinese => exact notChinese isText
      | english => exact notEnglish isText

/-- Reading the language fails where it is an integer that cannot be written or names none. -/
theorem language_cases (document : Yaml.Document) :
    let language := languageOf document (option? document "language")
    (HasOverlongLanguage document ∧ ¬ NamesNoLanguage document ∧ language = .error overlong) ∨
      (¬ HasOverlongLanguage document ∧ NamesNoLanguage document ∧
        language = .error .unsupportedLanguage) ∨
      (¬ HasOverlongLanguage document ∧ ¬ NamesNoLanguage document ∧
        ∃ found, language = .ok found) := by
  intro language
  cases node : option? document "language" with
  | none =>
      have read : language = .ok none := by
        simp [language, node, languageOf, bind, Except.bind]
      exact Or.inr (Or.inr ⟨by simp [HasOverlongLanguage, node], by simp [NamesNoLanguage, node],
        none, read⟩)
  | some id =>
      have long : HasOverlongLanguage document ↔
          ∃ number, document.value id = .integer number ∧ IsOverlong number := by
        simp [HasOverlongLanguage, node]
      rcases scalar_text_cases (document.value id) with ⟨isLong, read⟩ | ⟨isShort, text, read⟩
      · refine Or.inl ⟨long.mpr isLong, by simp [NamesNoLanguage, node, read], ?_⟩
        simp [language, node, languageOf, read, bind, Except.bind]
      · have named : NamesNoLanguage document ↔ ∃ code, text = some code ∧
            code ≠ WideText.ofString "zh" ∧ code ≠ WideText.ofString "en" := by
          simp [NamesNoLanguage, node, read]
        rw [named, long]
        cases text with
        | none =>
            have absent : language = .ok none := by
              simp [language, node, languageOf, read, bind, Except.bind]
            exact Or.inr (Or.inr ⟨isShort, by simp, none, absent⟩)
        | some code =>
            rcases language_of_code_cases code with ⟨isNone, unknown⟩ | ⟨isOne, found, known⟩
            · have refused : language = .error .unsupportedLanguage := by
                simp [language, node, languageOf, read, unknown, bind, Except.bind]
              exact Or.inr (Or.inl ⟨isShort, ⟨code, rfl, isNone⟩, refused⟩)
            · have taken : language = .ok (some found) := by
                simp [language, node, languageOf, read, known, bind, Except.bind]
              refine Or.inr (Or.inr ⟨isShort, ?_, some found, taken⟩)
              rintro ⟨other, same, isNone⟩
              cases same
              exact isOne isNone

theorem valid_depth_iff (depth : Int) :
    isValidDepth depth = true ↔ 1 ≤ depth ∧ depth ≤ 5 := by
  simp only [isValidDepth, Bool.and_eq_true, decide_eq_true_eq]
  exact Iff.rfl

theorem depth_cases (document : Yaml.Document) :
    let depth := depthOf document (option? document "max_tree_depth")
    (HasDepthOutOfRange document ∧ depth = .error .depthOutOfRange) ∨
      (¬ HasDepthOutOfRange document ∧ ∃ found, depth = .ok found ∧
        ∀ value, found = some value → 1 ≤ value ∧ value ≤ 5) := by
  intro depth
  have read : HasDepthOutOfRange document ↔ ∃ value,
      ((option? document "max_tree_depth").bind fun id => integer? (document.value id)) =
        some value ∧ ¬ (1 ≤ value ∧ value ≤ 5) := by
    simp only [HasDepthOutOfRange, Option.bind_eq_some_iff]
    constructor
    · rintro ⟨id, value, node, isInteger, outside⟩
      exact ⟨value, ⟨id, node, isInteger⟩, outside⟩
    · rintro ⟨value, ⟨id, node, isInteger⟩, outside⟩
      exact ⟨id, value, node, isInteger, outside⟩
  rw [read]
  simp only [depth, depthOf]
  cases (option? document "max_tree_depth").bind fun id => integer? (document.value id) with
  | none => exact Or.inr ⟨by simp, none, rfl, nofun⟩
  | some value =>
      by_cases inside : isValidDepth value = true
      · refine Or.inr ⟨?_, some value, if_pos inside, ?_⟩
        · rintro ⟨other, same, outside⟩
          cases same
          exact outside ((valid_depth_iff value).mp inside)
        · intro other same
          cases same
          exact (valid_depth_iff value).mp inside
      · exact Or.inl ⟨⟨value, rfl, fun within => inside ((valid_depth_iff value).mpr within)⟩,
          if_neg inside⟩

theorem scalar_texts_cases (document : Yaml.Document) (items : List Yaml.NodeId) :
    let texts := items.mapM fun item => scalarText? (document.value item)
    let long := ∃ item ∈ items, ∃ number, document.value item = .integer number ∧
      IsOverlong number
    (long ∧ texts = .error overlong) ∨ (¬ long ∧ ∃ found, texts = .ok found) := by
  induction items with
  | nil => exact Or.inr ⟨by simp, [], rfl⟩
  | cons item rest induction =>
      simp only [List.mapM_cons, List.mem_cons, exists_eq_or_imp]
      rcases scalar_text_cases (document.value item) with ⟨isLong, read⟩ | ⟨isShort, text, read⟩
      · exact Or.inl ⟨Or.inl isLong, by rw [read]; rfl⟩
      · rcases induction with ⟨isLong, others⟩ | ⟨areShort, found, others⟩
        · exact Or.inl ⟨Or.inr isLong, by rw [read, others]; rfl⟩
        · refine Or.inr ⟨not_or.mpr ⟨isShort, areShort⟩, text :: found, ?_⟩
          rw [read, others]
          rfl

theorem texts_cases (document : Yaml.Document) (node : Option Yaml.NodeId) :
    (ListsOverlong document node ∧ texts document node = .error overlong) ∨
      (¬ ListsOverlong document node ∧ ∃ found, texts document node = .ok found) := by
  cases node with
  | none => exact Or.inr ⟨by simp [ListsOverlong], [], rfl⟩
  | some id =>
      simp only [ListsOverlong, texts, Option.some.injEq, exists_eq_left']
      cases document.value id with
      | sequence =>
          rcases scalar_texts_cases document (document.items id) with
            ⟨isLong, read⟩ | ⟨isShort, found, read⟩
          · exact Or.inl ⟨⟨rfl, isLong⟩, by rw [read]; rfl⟩
          · exact Or.inr ⟨fun both => isShort both.2, _, by rw [read]; rfl⟩
      | _ => exact Or.inr ⟨by simp, _, rfl⟩

theorem known_language (language : Option Language) :
    language.map Language.code ∈ [none, some "zh", some "en"] := by
  cases language with
  | none => decide
  | some language => cases language <;> decide

/-- A mapping with an integer to be written that cannot be has no settings, nor has one with a
wrong language or depth; of any other come valid settings. -/
theorem of_mapping_cases (root : Path) (document : Yaml.Document) :
    (WritesOverlong document ∧ ofMapping root document = .error overlong) ∨
      (¬ WritesOverlong document ∧
        (NamesNoLanguage document ∨ HasDepthOutOfRange document) ∧
        ∃ fault, ofMapping root document = .error fault ∧ fault.isRejection = true) ∨
      (¬ WritesOverlong document ∧
        ¬ (NamesNoLanguage document ∨ HasDepthOutOfRange document) ∧
        ∃ settings, ofMapping root document = .ok settings ∧ settings.IsValid) := by
  have steps : ofMapping root document =
      (languageOf document (option? document "language")).bind fun language =>
        (depthOf document (option? document "max_tree_depth")).bind fun depth =>
          (texts document (option? document "extra_features")).bind fun extraFeatures =>
            (texts document (document.entry? document.root "exclude_paths")).bind fun exclusions =>
              .ok
                { root := root
                  options :=
                    { badges :=
                        (option? document "badges").bind fun id => truth? (document.value id)
                      toc := (option? document "toc").bind fun id => truth? (document.value id)
                      depth := depth
                      language := language.map Language.code }
                  extraFeatures := extraFeatures
                  exclusions := exclusions } := rfl
  rw [steps]
  rcases language_cases document with
    ⟨isLong, isCode, read⟩ | ⟨isShort, isNone, read⟩ | ⟨isShort, isCode, language, read⟩
  · refine Or.inl ⟨Or.inl isLong, ?_⟩
    rw [read]
    rfl
  · refine Or.inr (Or.inl ⟨?_, Or.inl isNone, .unsupportedLanguage, ?_, rfl⟩)
    · exact not_or.mpr ⟨isShort, fun others => others.1 isNone⟩
    · rw [read]
      rfl
  rcases depth_cases document with ⟨outside, readDepth⟩ | ⟨inside, depth, readDepth, bounds⟩
  · refine Or.inr (Or.inl ⟨?_, Or.inr outside, .depthOutOfRange, ?_, rfl⟩)
    · exact not_or.mpr ⟨isShort, fun others => others.2.1 outside⟩
    · rw [read, readDepth]
      rfl
  have right : ¬ (NamesNoLanguage document ∨ HasDepthOutOfRange document) :=
    not_or.mpr ⟨isCode, inside⟩
  rcases texts_cases document (option? document "extra_features") with
    ⟨isLong, readFeatures⟩ | ⟨featuresShort, features, readFeatures⟩
  · refine Or.inl ⟨Or.inr ⟨isCode, inside, Or.inl isLong⟩, ?_⟩
    rw [read, readDepth, readFeatures]
    rfl
  rcases texts_cases document (document.entry? document.root "exclude_paths") with
    ⟨isLong, readExclusions⟩ | ⟨exclusionsShort, exclusions, readExclusions⟩
  · refine Or.inl ⟨Or.inr ⟨isCode, inside, Or.inr isLong⟩, ?_⟩
    rw [read, readDepth, readFeatures, readExclusions]
    rfl
  · have short : ¬ WritesOverlong document :=
      not_or.mpr ⟨isShort, fun others => others.2.2.elim featuresShort exclusionsShort⟩
    rw [read, readDepth, readFeatures, readExclusions]
    exact Or.inr (Or.inr ⟨short, right, _, rfl,
      { language := known_language language, depth := bounds }⟩)

/-- A value that settings are refused for: no mapping, unless it is null, or a mapping with a
wrong language or depth. -/
def IsRefused (document : Option Yaml.Document) : Prop :=
  ∃ found, document = some found ∧
    ((found.value found.root ≠ .null ∧ found.value found.root ≠ .mapping) ∨
      (found.value found.root = .mapping ∧
        (NamesNoLanguage found ∨ HasDepthOutOfRange found)))

/-- What is taken for an empty file: blanks, and a value that says nothing. -/
def IsTakenForEmpty (text : List Char) (document : Option Yaml.Document) : Prop :=
  trim text = [] ∨ ∃ found, document = some found ∧ found.isVoid found.root = true

/-- A mapping that an integer is to be written from that cannot be. -/
def AsksForOverlong (text : List Char) (document : Option Yaml.Document) : Prop :=
  trim text ≠ [] ∧ ∃ found, document = some found ∧ found.value found.root = .mapping ∧
    WritesOverlong found

theorem nothing_in_void (document : Yaml.Document)
    (isMapping : document.value document.root = .mapping)
    (void : document.isVoid document.root = true) : ¬ WritesOverlong document := by
  have noEntries : document.entries document.root = [] := by
    simpa [Yaml.Document.isVoid, isMapping] using void
  have noEntry : ∀ name, document.entry? document.root name = none := by
    simp [Yaml.Document.entry?, noEntries]
  have noOption : ∀ name, option? document name = none := by
    simp [option?, noEntry]
  simp [WritesOverlong, HasOverlongLanguage, ListsOverlong, noEntry, noOption]

theorem of_text_taken_for_empty (root : Path) (fileName : String) (text : List Char)
    (document : Option Yaml.Document) (parsed : Yaml.Document.ofText text = .ok document)
    (empty : IsTakenForEmpty text document) :
    ofText root fileName text = .ok (default root) ∧ ¬ AsksForOverlong text document := by
  rcases empty with blank | ⟨found, rfl, void⟩
  · exact ⟨by simp [ofText, blank], fun asks => asks.1 blank⟩
  · refine ⟨by simp [ofText, parsed, void], ?_⟩
    rintro ⟨-, other, same, isMapping, writes⟩
    cases same
    exact nothing_in_void found isMapping void writes

theorem of_text_of_value (root : Path) (fileName : String) (text : List Char)
    (found : Yaml.Document) (parsed : Yaml.Document.ofText text = .ok (some found))
    (full : ¬ IsTakenForEmpty text (some found)) :
    (found.value found.root = .mapping ∧ ofText root fileName text = ofMapping root found) ∨
      (found.value found.root ≠ .null ∧ found.value found.root ≠ .mapping ∧
        ofText root fileName text = .error .notMapping) := by
  obtain ⟨notBlank, notVoid⟩ := not_or.mp full
  have hasText : ¬ (trim text).isEmpty = true := by
    simpa using notBlank
  have hasValue : ¬ found.isVoid found.root = true := by
    simpa using notVoid
  have notNull : found.value found.root ≠ .null := by
    intro isNull
    simp [Yaml.Document.isVoid, isNull] at hasValue
  by_cases isMapping : found.value found.root = .mapping
  · refine Or.inl ⟨isMapping, ?_⟩
    rw [ofText, if_neg hasText, parsed]
    refine (if_neg hasValue).trans ?_
    rw [isMapping]
  · refine Or.inr ⟨notNull, isMapping, ?_⟩
    rw [ofText, if_neg hasText, parsed]
    refine (if_neg hasValue).trans ?_
    split
    next same => exact absurd same isMapping
    next => rfl

/-- What becomes of a text that has a value: it is taken for an empty one although its value has
to be refused, an integer in it cannot be written, it is refused, or it gives valid settings. -/
theorem of_text_cases (root : Path) (fileName : String) (text : List Char)
    (document : Option Yaml.Document) (parsed : Yaml.Document.ofText text = .ok document) :
    (¬ AsksForOverlong text document ∧ IsRefused document ∧ IsTakenForEmpty text document ∧
        ofText root fileName text = .ok (default root)) ∨
      (AsksForOverlong text document ∧ ¬ IsTakenForEmpty text document ∧
        ofText root fileName text = .error overlong) ∨
      (¬ AsksForOverlong text document ∧ IsRefused document ∧ ¬ IsTakenForEmpty text document ∧
        ∃ fault, ofText root fileName text = .error fault ∧ fault.isRejection = true) ∨
      (¬ AsksForOverlong text document ∧ ¬ IsRefused document ∧
        ∃ settings, ofText root fileName text = .ok settings ∧ settings.IsValid) := by
  by_cases empty : IsTakenForEmpty text document
  · obtain ⟨read, short⟩ := of_text_taken_for_empty root fileName text document parsed empty
    by_cases refused : IsRefused document
    · exact Or.inl ⟨short, refused, empty, read⟩
    · exact Or.inr (Or.inr (Or.inr ⟨short, refused, _, read, default_is_valid root⟩))
  cases document with
  | none =>
      have read : ofText root fileName text = .ok (default root) := by
        simp [ofText, parsed]
      refine Or.inr (Or.inr (Or.inr ⟨?_, ?_, _, read, default_is_valid root⟩))
      · simp [AsksForOverlong]
      · simp [IsRefused]
  | some found =>
      rcases of_text_of_value root fileName text found parsed empty with
        ⟨isMapping, read⟩ | ⟨notNull, notMapping, read⟩
      · have asks : AsksForOverlong text (some found) ↔ WritesOverlong found := by
          have notBlank := (not_or.mp empty).1
          simp [AsksForOverlong, notBlank, isMapping]
        have refuses : IsRefused (some found) ↔
            NamesNoLanguage found ∨ HasDepthOutOfRange found := by
          simp [IsRefused, isMapping]
        rw [read, asks, refuses]
        rcases of_mapping_cases root found with
          ⟨long, failed⟩ | ⟨short, refused, failed⟩ | ⟨short, accepted, taken⟩
        · exact Or.inr (Or.inl ⟨long, empty, failed⟩)
        · exact Or.inr (Or.inr (Or.inl ⟨short, refused, empty, failed⟩))
        · exact Or.inr (Or.inr (Or.inr ⟨short, accepted, taken⟩))
      · refine Or.inr (Or.inr (Or.inl ⟨?_, ?_, empty, .notMapping, read, rfl⟩))
        · simp [AsksForOverlong, notMapping]
        · exact ⟨found, rfl, Or.inl ⟨notNull, notMapping⟩⟩

end Settings

end ReadmePress
