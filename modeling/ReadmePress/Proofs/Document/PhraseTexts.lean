import ReadmePress.Proofs.Document.PlainLines
import ReadmePress.Proofs.Document.Slots

/-!
The fixed phrases of the documents. Each is one plain line without a null character, so none of
them is a heading, opens or closes a fence, or holds a slot. They are looked through once here.
-/

namespace ReadmePress

open ReadmePress.Text

/-- Characters that phrases are written in. -/
def isPhraseCharacter (character : Char) : Bool :=
  character != '\n' && character != '\r' && character != Char.ofNat 0

/-- Texts of phrase characters that start as neither a blank nor a marker nor a heading does. -/
def isPhrase : List Char → Bool
  | [] => false
  | first :: rest =>
      isPlainStart first && first != '#' && (first :: rest).all isPhraseCharacter

theorem lacks_slot_of_no_null (text : List Char) (noNull : Char.ofNat 0 ∉ text) :
    LacksSlot text :=
  fun occurs => noNull (occurs.subset (by decide))

theorem phrase_characters (text : List Char) (phrase : isPhrase text = true) :
    ∀ character ∈ text, isPhraseCharacter character = true := by
  cases text with
  | nil => simp
  | cons first rest =>
      rw [isPhrase, Bool.and_eq_true] at phrase
      exact List.all_eq_true.mp phrase.2

theorem phrase_append (first second : List Char) (phrase : isPhrase first = true)
    (characters : ∀ character ∈ second, isPhraseCharacter character = true) :
    isPhrase (first ++ second) = true := by
  cases first with
  | nil => exact absurd phrase (by decide)
  | cons start rest =>
      rw [isPhrase, Bool.and_eq_true] at phrase
      rw [List.cons_append, isPhrase, ← List.cons_append, List.all_append, phrase.1, phrase.2,
        List.all_eq_true.mpr characters]
      rfl

theorem phrase_is_plain (text : String) (phrase : isPhrase text.toList = true) :
    PlainLine text := by
  refine ⟨?_, ?_⟩
  · intro character member
    have allowed := phrase_characters text.toList phrase character member
    simp only [isPhraseCharacter, Bool.and_eq_true, bne_iff_ne] at allowed
    exact allowed.1
  · cases characters : text.toList with
    | nil => simp [characters, isPhrase] at phrase
    | cons first rest =>
        rw [characters, isPhrase, Bool.and_eq_true, Bool.and_eq_true] at phrase
        exact phrase.1.1

theorem phrase_lacks_slot (text : String) (phrase : isPhrase text.toList = true) :
    LacksSlot text.toList := by
  apply lacks_slot_of_no_null
  intro isNull
  exact absurd (phrase_characters text.toList phrase _ isNull) (by decide)

theorem phrases_cons (characters : List Char) (more : List String)
    (here : isPhrase characters = true) (later : ∀ phrase ∈ more, isPhrase phrase.toList = true) :
    ∀ phrase ∈ String.ofList characters :: more, isPhrase phrase.toList = true :=
  List.forall_mem_cons.mpr ⟨by rwa [String.toList_ofList], later⟩

theorem phrases_append_cons (first second : List Char) (more : List String)
    (here : isPhrase (first ++ second) = true)
    (later : ∀ phrase ∈ more, isPhrase phrase.toList = true) :
    ∀ phrase ∈ (String.ofList first ++ String.ofList second) :: more,
      isPhrase phrase.toList = true :=
  List.forall_mem_cons.mpr ⟨by rwa [String.toList_append, String.toList_ofList,
    String.toList_ofList], later⟩

/-- The phrases of a language that stand in a line of their own or in an item of a list. -/
def Language.phrases (language : Language) : List String :=
  let placeholders := language.placeholders
  [placeholders.description, placeholders.intro, placeholders.scripts, placeholders.routes,
    placeholders.environment, placeholders.environmentValue, placeholders.stack,
    placeholders.license] ++ placeholders.features ++ DocumentSection.titles language

theorem phrases_known (language : Language) :
    ∀ phrase ∈ language.phrases, isPhrase phrase.toList = true := by
  have nothing : ∀ phrase ∈ ([] : List String), isPhrase phrase.toList = true := by simp
  -- A phrase is taken as the list of its characters, so that none of them has to be decoded.
  cases language <;>
    repeat first
      | exact nothing
      | refine phrases_cons _ _ (by decide +kernel) ?_
      | refine phrases_append_cons _ _ _ (by decide +kernel) ?_

theorem phrase_of_language_is_plain (language : Language) (phrase : String)
    (known : phrase ∈ language.phrases) : PlainLine phrase :=
  phrase_is_plain phrase (phrases_known language phrase known)

theorem phrase_of_language_lacks_slot (language : Language) (phrase : String)
    (known : phrase ∈ language.phrases) : LacksSlot phrase.toList :=
  phrase_lacks_slot phrase (phrases_known language phrase known)

theorem title_is_phrase (language : Language) (kind : DocumentSection) :
    kind.title language ∈ language.phrases := by
  have listed : kind ∈ DocumentSection.all := by
    cases kind <;> decide
  exact List.mem_append_right _ (List.mem_map_of_mem listed)

theorem feature_is_phrase (language : Language) (feature : String)
    (member : feature ∈ language.placeholders.features) : feature ∈ language.phrases :=
  List.mem_append_left _ (List.mem_append_right _ member)

theorem characters_of_lists (holds : Char → Bool) (first second : List Char)
    (all : (first ++ second).all holds = true) :
    ∀ character ∈ (String.ofList first ++ String.ofList second).toList, holds character = true := by
  rw [String.toList_append, String.toList_ofList, String.toList_ofList]
  exact List.all_eq_true.mp all

/-- The quick start is written without carriage returns, null characters and backticks. -/
theorem quickstart_characters (language : Language) : ∀ character ∈ language.quickstart.toList,
    (character != '\r' && character != Char.ofNat 0 && character != Char.ofNat 0x60) = true := by
  cases language <;> exact characters_of_lists _ _ _ (by decide +kernel)

theorem quickstart_lacks_slot (language : Language) : LacksSlot language.quickstart.toList := by
  apply lacks_slot_of_no_null
  intro isNull
  exact absurd (quickstart_characters language _ isNull) (by decide)

/-- The items of the table of contents. -/
def tocItems : List String :=
  (TocEntry.ofTitles (DocumentSection.titles .chinese)).map fun entry =>
    "[" ++ entry.title ++ "](#" ++ entry.anchor ++ ")"

theorem toc_items_written : tocItems =
    ["[简介](#简介)", "[特性](#特性)", "[快速开始](#快速开始)", "[运行脚本](#运行脚本)",
      "[项目结构](#项目结构)", "[API 端点](#api-端点)", "[环境变量](#环境变量)", "[技术栈](#技术栈)",
      "[许可](#许可)"] := by
  decide +kernel

theorem toc_items_known : ∀ item ∈ tocItems, isPhrase item.toList = true := by
  rw [toc_items_written]
  decide +kernel

/-- The Chinese document has a table of contents where the options ask for it. -/
theorem toc_draft_eq (options : DocumentOptions) :
    tocDraft options =
      if options.language = .chinese ∧ options.toc = true then
        sectionHeading "目录" ++ listItems tocItems
      else "" := by
  rw [tocDraft]
  cases options.language with
  | english => rfl
  | chinese => cases options.toc <;> rfl

end ReadmePress
