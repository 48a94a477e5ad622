import ReadmePress.Facts.Collection
import ReadmePress.Proofs.Document.PhraseTexts
import ReadmePress.Proofs.Facts.EnvironmentAccesses
import ReadmePress.Proofs.Outcome
import ReadmePress.Proofs.SortedSet

/-!
What the facts of a sheet can be. Badges and names of environment variables are written in
characters of their own, whatever project they come from, so none of them can end a line or
stand for a marker. The other texts are pasted as the project has them.
-/

namespace ReadmePress

open ReadmePress.Text

section Badges

theorem percent_encoded_character (text : List Char) (character : Char)
    (member : character ∈ percentEncode text) :
    isUnreserved character = true ∨ character = '%' ∨
      ∃ value < 16, character = upperHexDigit value := by
  obtain ⟨source, -, written⟩ := List.mem_flatMap.mp member
  split at written
  next unreserved =>
    rw [List.mem_singleton.mp written]
    exact Or.inl unreserved
  next =>
    obtain ⟨byte, -, digit⟩ := List.mem_flatMap.mp written
    have bound := byte.toNat_lt
    simp only [percentByte, List.mem_cons, List.not_mem_nil, or_false] at digit
    rcases digit with isPercent | isHigh | isLow
    · exact Or.inr (Or.inl isPercent)
    · exact Or.inr (Or.inr ⟨byte.toNat / 16, by omega, isHigh⟩)
    · exact Or.inr (Or.inr ⟨byte.toNat % 16, by omega, isLow⟩)

/-- A percent-encoded text is written in phrase characters. -/
theorem percent_encoded_phrase (text : List Char) :
    ∀ character ∈ percentEncode text, isPhraseCharacter character = true := by
  have digits : ∀ value < 16, isPhraseCharacter (upperHexDigit value) = true := by decide
  intro character member
  rcases percent_encoded_character text character member with
    unreserved | rfl | ⟨value, bound, rfl⟩
  · simp only [isPhraseCharacter, Bool.and_eq_true, bne_iff_ne]
    refine ⟨⟨?_, ?_⟩, ?_⟩ <;>
      · rintro rfl
        exact absurd unreserved (by decide)
  · decide
  · exact digits value bound

theorem badge_is_phrase (opening label closing : String) (phrase : isPhrase opening.toList = true)
    (characters : closing.toList.all isPhraseCharacter = true) :
    isPhrase (BadgeLabels.badge opening label closing).toList = true := by
  rw [BadgeLabels.badge, String.toList_append, String.toList_append, String.toList_ofList]
  exact phrase_append _ _ (phrase_append _ _ phrase (percent_encoded_phrase label.toList))
    (List.all_eq_true.mp characters)

theorem badges_are_phrases (labels : BadgeLabels) :
    ∀ badge ∈ labels.badges, isPhrase badge.toList = true := by
  intro badge member
  simp only [BadgeLabels.badges, List.mem_append] at member
  rcases member with (isLicense | isNode) | isTyping
  · obtain ⟨label, -, rfl⟩ := List.mem_map.mp isLicense
    exact badge_is_phrase _ label _ (by decide) (by decide)
  · obtain ⟨label, -, rfl⟩ := List.mem_map.mp isNode
    exact badge_is_phrase _ label _ (by decide) (by decide)
  · split at isTyping
    next =>
      rw [List.mem_singleton.mp isTyping]
      decide
    next => simp at isTyping

theorem phrase_of_words (first : String) (more : List String)
    (phrases : ∀ word ∈ first :: more, isPhrase word.toList = true) :
    isPhrase (String.intercalate " " (first :: more)).toList = true := by
  induction more generalizing first with
  | nil => simpa using phrases
  | cons next others induction =>
      obtain ⟨here, later⟩ := List.forall_mem_cons.mp phrases
      have blank : " ".toList.all isPhraseCharacter = true := by decide
      rw [String.intercalate_cons_cons, String.toList_append, String.toList_append]
      exact phrase_append _ _ (phrase_append _ _ here (List.all_eq_true.mp blank))
        (phrase_characters _ (induction next later))

/-- The line of badges is empty or a phrase. -/
theorem badge_line_is_phrase (labels : BadgeLabels) :
    labels.line = "" ∨ isPhrase labels.line.toList = true := by
  have phrases := badges_are_phrases labels
  rw [BadgeLabels.line]
  cases badges : labels.badges with
  | nil => exact Or.inl rfl
  | cons first more =>
      rw [badges] at phrases
      exact Or.inr (phrase_of_words first more phrases)

end Badges

section EnvironmentKeys

/-- A text of the characters that names of environment variables are written in. -/
def IsKey (key : String) : Prop :=
  ∀ character ∈ key.toList, EnvironmentKey.isKeyCharacter character = true

theorem key_is_one_line (key : String) (isKey : IsKey key) : OneLine key := by
  intro character member
  have allowed := isKey character member
  constructor
  · rintro rfl
    exact absurd allowed (by decide)
  · rintro rfl
    exact absurd allowed (by decide)

namespace EnvironmentKey

theorem key_of_text (key : List Char) (isKey : IsKeyText key) : IsKey (String.ofList key) := by
  intro character member
  rw [String.toList_ofList] at member
  exact isKey.allowed character member

theorem sample_keys (text : List Char) : ∀ key ∈ ofSample text, IsKey key := by
  intro key member
  obtain ⟨line, -, assigned⟩ := List.mem_filterMap.mp member
  simp only [ofSampleLine?] at assigned
  split at assigned
  next found rest taken =>
    obtain rfl := Option.some.inj assigned
    exact key_of_text found (take_key_found line found _ taken).2.1
  next => exact absurd assigned (by simp)

end EnvironmentKey

/-- Every name of an environment variable that a project shows is written in key characters. -/
theorem Workspace.collected_keys (workspace : Workspace) (root : Path)
    (exclusions keys : List String)
    (collected : (workspace.collectEnvironmentKeys root exclusions).outcome = .ok keys) :
    ∀ key ∈ keys, IsKey key := by
  obtain ⟨sample, -, collected⟩ := Traced.bind_ok _ _ _ collected
  obtain ⟨texts, -, collected⟩ := Traced.bind_ok _ _ _ collected
  obtain rfl : SortedSet.ofList ((sample.map EnvironmentKey.ofSample).getD [] ++
      texts.flatMap EnvironmentKey.scan) = keys := Except.ok.inj collected
  intro key member
  rcases List.mem_append.mp ((SortedSet.mem_of_list key _).mp member) with declared | read
  · cases sample with
    | none => simp at declared
    | some text => exact EnvironmentKey.sample_keys text key declared
  · obtain ⟨text, -, scanned⟩ := List.mem_flatMap.mp read
    obtain ⟨characters, rfl, isKey⟩ := EnvironmentKey.scanned_keys text key scanned
    exact EnvironmentKey.key_of_text characters isKey

end EnvironmentKeys

/-- What all collected facts are like. -/
structure Collected (request : FactsRequest) (facts : WideFacts) : Prop where
  description : facts.description = request.description.getD ""
  badges : facts.badges = "" ∨ PlainLine facts.badges
  environmentKeys : ∀ key ∈ facts.environmentKeys, IsKey key

theorem Workspace.collect_facts_ok (workspace : Workspace) (directory : Path)
    (request : FactsRequest) (facts : WideFacts)
    (collected : (workspace.collectFacts directory request).outcome = .ok facts) :
    Collected request facts := by
  obtain ⟨settings, -, collected⟩ := Traced.bind_ok _ _ _ collected
  obtain ⟨manifest, -, collected⟩ := Traced.bind_ok _ _ _ collected
  obtain ⟨options, -, collected⟩ := Traced.bind_ok _ _ _ collected
  obtain ⟨badges, badgesLine, collected⟩ := Traced.bind_ok _ _ _ collected
  obtain ⟨name, -, collected⟩ := Traced.bind_ok _ _ _ collected
  obtain ⟨listing, -, collected⟩ := Traced.bind_ok _ _ _ collected
  obtain ⟨routes, -, collected⟩ := Traced.bind_ok _ _ _ collected
  obtain ⟨keys, foundKeys, collected⟩ := Traced.bind_ok _ _ _ collected
  obtain ⟨_, -, collected⟩ := Traced.bind_ok _ _ _ collected
  have badgesPlain : badges = "" ∨ PlainLine badges := by
    simp only [Traced.ofExcept] at badgesLine
    split at badgesLine
    next =>
      have line := (map_error_ok_iff _ _ _).mp badgesLine
      obtain ⟨labels, -, rfl⟩ := map_succeeds _ _ _ line
      exact (badge_line_is_phrase labels).imp_right (phrase_is_plain _)
    next => exact Or.inl (Except.ok.inj badgesLine).symm
  have keysAllowed :=
    workspace.collected_keys directory _ keys ((map_error_ok_iff _ _ _).mp foundKeys)
  obtain rfl := Except.ok.inj collected
  exact ⟨rfl, badgesPlain, keysAllowed⟩

end ReadmePress
