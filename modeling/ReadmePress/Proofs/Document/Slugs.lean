import Mathlib.Data.List.TakeWhile
import ReadmePress.Document.Anchors
import ReadmePress.Proofs.Document.Fences
import ReadmePress.Proofs.Text.CharacterClasses

/-!
The characters of slugs, and the texts that are slugs already. They are the same: a text is its
own slug exactly when it is made of such characters, so slugs do not change a second time.
-/

namespace ReadmePress

open ReadmePress.Text

/-- Word characters and hyphens that lower case leaves as they are. -/
structure IsSlugCharacter (character : Char) : Prop where
  kept : isWord character = true ∨ character = '-'
  lower : lowercase [character] = [character]

theorem lowercase_one_iff (character : Char) :
    lowercase [character] = [character] ↔ ¬ IsCapital character := by
  rw [lowercase_eq_self_iff, List.forall_mem_singleton]

theorem hyphen_is_slug_character : IsSlugCharacter '-' :=
  ⟨Or.inr rfl, by decide +kernel⟩

theorem slug_character_not_blank (character : Char) (made : IsSlugCharacter character) :
    isBlank character = false := by
  rcases made.kept with word | rfl
  · exact word_is_not_blank character word
  · decide

theorem slug_source_iff (character : Char) :
    isSlugSource character = true ↔
      isWord character = true ∨ isBlank character = true ∨ character = '-' := by
  rw [isSlugSource, Bool.or_eq_true, Bool.or_eq_true, beq_iff_eq, or_assoc]

/-- White space has become hyphens, and whatever else is left comes from lower case. -/
theorem slug_is_made (title : List Char) :
    ∀ character ∈ slugChars title, IsSlugCharacter character := by
  intro character member
  obtain ⟨source, isLeft, rfl⟩ := List.mem_map.mp member
  obtain ⟨isLower, isSource⟩ := List.mem_filter.mp isLeft
  cases blank : isBlank source with
  | true =>
      rw [if_pos rfl]
      exact hyphen_is_slug_character
  | false =>
      rw [if_neg Bool.false_ne_true]
      have noCapital := lowercase_after_has_no_capital [] (trim title) source isLower
      refine ⟨?_, (lowercase_one_iff source).mpr noCapital⟩
      rcases (slug_source_iff source).mp isSource with word | isSpace | hyphen
      · exact Or.inl word
      · exact absurd (blank.symm.trans isSpace) Bool.false_ne_true
      · exact Or.inr hyphen

theorem trim_of_no_blank (text : List Char)
    (noBlank : ∀ character ∈ text, isBlank character = false) : trim text = text := by
  have start : trimStart text = text :=
    List.dropWhile_eq_self_iff.mpr fun _ => by simp [noBlank]
  rw [trim, start]
  exact Tidy.trim_end_of_last text fun last ends => noBlank last (List.mem_of_getLast? ends)

/-- None of the steps finds anything to change in slug characters. -/
theorem slug_of_slug_characters (text : List Char)
    (made : ∀ character ∈ text, IsSlugCharacter character) : slugChars text = text := by
  have noBlank : ∀ character ∈ text, isBlank character = false :=
    fun character member => slug_character_not_blank character (made character member)
  have isLower : lowercase text = text :=
    (lowercase_eq_self_iff text).mpr fun character member =>
      (lowercase_one_iff character).mp (made character member).lower
  have allKept : text.filter isSlugSource = text := by
    refine List.filter_eq_self.mpr fun character member => (slug_source_iff character).mpr ?_
    rcases (made character member).kept with word | hyphen
    · exact Or.inl word
    · exact Or.inr (Or.inr hyphen)
  have noneReplaced : ∀ character ∈ text,
      (if isBlank character then '-' else character) = id character := by
    intro character member
    rw [noBlank character member, if_neg Bool.false_ne_true]
    rfl
  rw [slugChars, trim_of_no_blank text noBlank, isLower, allKept,
    List.map_congr_left noneReplaced, List.map_id]

theorem slugify_eq_self_iff (text : String) :
    slugify text = text ↔ ∀ character ∈ text.toList, IsSlugCharacter character := by
  rw [slugify, ← String.toList_inj, String.toList_ofList]
  constructor
  · intro same
    rw [← same]
    exact slug_is_made text.toList
  · exact slug_of_slug_characters text.toList

/-- A slug holds nothing but word characters and hyphens, none of them white space. The texts of
such characters in lower case are exactly those that are their own slug; so a slug is the slug of
itself. -/
theorem slugs_stay (title : String) :
    (∀ character ∈ (slugify title).toList,
        (isWord character = true ∨ character = '-') ∧ isBlank character = false) ∧
      (slugify title = title ↔ ∀ character ∈ title.toList, IsSlugCharacter character) ∧
      slugify (slugify title) = slugify title := by
  have made : ∀ character ∈ (slugify title).toList, IsSlugCharacter character := by
    rw [slugify, String.toList_ofList]
    exact slug_is_made title.toList
  refine ⟨?_, slugify_eq_self_iff title, (slugify_eq_self_iff (slugify title)).mpr made⟩
  intro character member
  have isMade := made character member
  exact ⟨isMade.kept, slug_character_not_blank character isMade⟩

/-- A dotted capital, whose lower-case form is two characters, a sigma at the end of a word, white
space of other scripts at both ends and between words, and punctuation. -/
theorem mixed_title_slug_stays :
    'ς' ∈ (slugify "\u3000ΟΔΟΣ &\u2003İzmir: a-b\u00a0").toList ∧
      (isWord 'ς' = true ∨ 'ς' = '-') ∧ isBlank 'ς' = false ∧
      slugify (slugify "\u3000ΟΔΟΣ &\u2003İzmir: a-b\u00a0") = "οδος--izmir-a-b" := by
  have slug : slugify "\u3000ΟΔΟΣ &\u2003İzmir: a-b\u00a0" = "οδος--izmir-a-b" := by
    decide +kernel
  have member : 'ς' ∈ (slugify "\u3000ΟΔΟΣ &\u2003İzmir: a-b\u00a0").toList := by
    rw [slug]
    decide
  obtain ⟨characters, -, stays⟩ := slugs_stay "\u3000ΟΔΟΣ &\u2003İzmir: a-b\u00a0"
  obtain ⟨kept, notBlank⟩ := characters 'ς' member
  exact ⟨member, kept, notBlank, stays.trans slug⟩

end ReadmePress
