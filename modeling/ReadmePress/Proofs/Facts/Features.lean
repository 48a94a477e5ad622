import Mathlib.Data.List.Basic
import ReadmePress.Facts.Features

/-!
Lists of features. Merging keeps every text where it first appears and nothing else, so merging in
parts is merging at once, and what has been merged is not merged again. The features that packages
show are phrases of one table in its order, of which more packages never show fewer.
-/

namespace ReadmePress

theorem mem_distinct_after (seen texts : List String) (text : String) :
    text ∈ distinctAfter seen texts ↔ text ∈ texts ∧ text ∉ seen := by
  induction texts generalizing seen with
  | nil => simp [distinctAfter]
  | cons first rest induction =>
      rw [distinctAfter]
      split
      next known =>
        have isSeen : first ∈ seen := List.contains_iff_mem.mp known
        rw [induction, List.mem_cons]
        constructor
        · exact fun ⟨inRest, fresh⟩ => ⟨Or.inr inRest, fresh⟩
        · rintro ⟨rfl | inRest, fresh⟩
          · exact absurd isSeen fresh
          · exact ⟨inRest, fresh⟩
      next unknown =>
        have notSeen : first ∉ seen := fun member => unknown (List.contains_iff_mem.mpr member)
        rw [List.mem_cons, induction, List.mem_cons, List.mem_cons, not_or]
        constructor
        · rintro (rfl | ⟨inRest, -, fresh⟩)
          · exact ⟨Or.inl rfl, notSeen⟩
          · exact ⟨Or.inr inRest, fresh⟩
        · rintro ⟨rfl | inRest, fresh⟩
          · exact Or.inl rfl
          · by_cases same : text = first
            · exact Or.inl same
            · exact Or.inr ⟨inRest, same, fresh⟩

/-- Texts that are kept stand as their first appearances do. -/
theorem distinct_after_ordered (seen texts : List String) :
    (distinctAfter seen texts).Pairwise fun earlier later =>
      texts.idxOf earlier < texts.idxOf later := by
  induction texts generalizing seen with
  | nil => exact .nil
  | cons first rest induction =>
      -- Behind its head a list finds every other text one place further down.
      have behind (seen : List String) (known : first ∈ seen) :
          (distinctAfter seen rest).Pairwise fun earlier later =>
            (first :: rest).idxOf earlier < (first :: rest).idxOf later := by
        refine (induction seen).imp_of_mem ?_
        intro earlier later isEarlier isLater before
        have different (text : String) (kept : text ∈ distinctAfter seen rest) : first ≠ text := by
          rintro rfl
          exact ((mem_distinct_after seen rest first).mp kept).2 known
        rw [List.idxOf_cons_ne rest (different earlier isEarlier),
          List.idxOf_cons_ne rest (different later isLater)]
        exact Nat.succ_lt_succ before
      rw [distinctAfter]
      split
      next known => exact behind seen (List.contains_iff_mem.mp known)
      next =>
        refine List.pairwise_cons.mpr ⟨?_, behind (first :: seen) List.mem_cons_self⟩
        intro later isLater
        have fresh := ((mem_distinct_after _ rest later).mp isLater).2
        have different : first ≠ later := by
          rintro rfl
          exact fresh List.mem_cons_self
        rw [List.idxOf_cons_self, List.idxOf_cons_ne rest different]
        exact Nat.succ_pos _

/-- Texts of which repetitions were dropped before are dropped the same way in front of others. -/
theorem distinct_after_distinct (seen first second : List String) :
    distinctAfter seen (distinctAfter seen first ++ second) =
      distinctAfter seen (first ++ second) := by
  induction first generalizing seen with
  | nil => rfl
  | cons text rest induction =>
      rw [List.cons_append, distinctAfter, distinctAfter]
      split
      next => exact induction seen
      next unknown => rw [List.cons_append, distinctAfter, if_neg unknown, induction]

/-- What has appeared adds nothing. -/
theorem distinct_after_known (seen first second : List String)
    (known : ∀ text ∈ second, text ∈ first ∨ text ∈ seen) :
    distinctAfter seen (first ++ second) = distinctAfter seen first := by
  induction first generalizing seen with
  | nil =>
      rw [List.nil_append]
      apply List.eq_nil_iff_forall_not_mem.mpr
      intro text member
      obtain ⟨isSecond, fresh⟩ := (mem_distinct_after seen second text).mp member
      exact (known text isSecond).elim List.not_mem_nil fresh
  | cons first rest induction =>
      have inRest (marked : List String) (firstMarked : first ∈ marked) (kept : seen ⊆ marked) :
          ∀ text ∈ second, text ∈ rest ∨ text ∈ marked := by
        intro text member
        rcases known text member with inFirst | isSeen
        · rcases List.mem_cons.mp inFirst with rfl | inRest
          · exact Or.inr firstMarked
          · exact Or.inl inRest
        · exact Or.inr (kept isSeen)
      rw [List.cons_append, distinctAfter, distinctAfter]
      split
      next isKnown =>
        have firstSeen : first ∈ seen := List.contains_iff_mem.mp isKnown
        exact induction seen (inRest seen firstSeen (List.Subset.refl seen))
      next =>
        rw [induction _ (inRest _ List.mem_cons_self (List.subset_cons_self first seen))]

section Merging

variable (detected extra : List String)

theorem mem_merge_features (text : String) :
    text ∈ mergeFeatures detected extra ↔ text ∈ detected ∨ text ∈ extra := by
  rw [mergeFeatures, mem_distinct_after, List.mem_append]
  simp

theorem merge_features_nodup : (mergeFeatures detected extra).Nodup := by
  refine (distinct_after_ordered [] (detected ++ extra)).imp ?_
  rintro earlier later before rfl
  exact Nat.lt_irrefl _ before

theorem merge_features_assoc (more : List String) :
    mergeFeatures (mergeFeatures detected extra) more = mergeFeatures detected (extra ++ more) := by
  rw [mergeFeatures, mergeFeatures, distinct_after_distinct, List.append_assoc, mergeFeatures]

theorem merge_features_again :
    mergeFeatures (mergeFeatures detected extra) extra = mergeFeatures detected extra := by
  rw [merge_features_assoc, mergeFeatures, mergeFeatures, ← List.append_assoc]
  apply distinct_after_known
  exact fun text member => Or.inl (List.mem_append_right detected member)

end Merging

namespace KnownFeature

theorem phrases_distinct (language : Language) :
    (knownFeatures.map (·.phrase language)).Nodup := by
  cases language <;> decide +kernel

end KnownFeature

theorem detect_features_nodup (packages : List String) (language : Language) :
    (detectFeatures packages language).Nodup :=
  (KnownFeature.phrases_distinct language).sublist (List.filter_sublist.map _)

theorem mem_detect_features (packages : List String) (language : Language) (phrase : String) :
    phrase ∈ detectFeatures packages language ↔
      ∃ feature ∈ knownFeatures, (∃ package ∈ feature.packages, package ∈ packages) ∧
        feature.phrase language = phrase := by
  simp only [detectFeatures, List.mem_map, List.mem_filter, List.any_eq_true, List.contains_iff_mem,
    and_assoc]

/-- More packages show no feature less. -/
theorem detect_features_within (packages more : List String) (language : Language)
    (within : packages ⊆ more) :
    (detectFeatures packages language).Sublist (detectFeatures more language) := by
  refine (List.monotone_filter_right knownFeatures fun feature shown => ?_).map _
  obtain ⟨package, isPackage, depended⟩ := List.any_eq_true.mp shown
  have inMore := within (List.contains_iff_mem.mp depended)
  exact List.any_eq_true.mpr ⟨package, isPackage, List.contains_iff_mem.mpr inMore⟩

/-- Merged features are what either list has, each once, in the order of the first appearances;
merging in parts is merging at once, and merging a list again changes nothing. Packages show the
features that they belong to, each once; more packages show the same features and perhaps others
between them, so they only add to what is merged. -/
theorem feature_lists_canonical (first second third : List String) :
    (mergeFeatures first second).Nodup ∧
      (∀ text, text ∈ mergeFeatures first second ↔ text ∈ first ∨ text ∈ second) ∧
      ((mergeFeatures first second).Pairwise fun earlier later =>
        (first ++ second).idxOf earlier < (first ++ second).idxOf later) ∧
      mergeFeatures (mergeFeatures first second) third = mergeFeatures first (second ++ third) ∧
      mergeFeatures (mergeFeatures first second) second = mergeFeatures first second ∧
      ∀ (language : Language) (packages more extra : List String), packages ⊆ more →
        (detectFeatures packages language).Sublist (detectFeatures more language) ∧
          (detectFeatures packages language).Nodup ∧
          (∀ phrase, phrase ∈ detectFeatures packages language ↔
            ∃ feature ∈ knownFeatures, (∃ package ∈ feature.packages, package ∈ packages) ∧
              feature.phrase language = phrase) ∧
          mergeFeatures (detectFeatures packages language) extra ⊆
            mergeFeatures (detectFeatures more language) extra := by
  refine ⟨merge_features_nodup first second, mem_merge_features first second,
    distinct_after_ordered [] (first ++ second), merge_features_assoc first second third,
    merge_features_again first second, ?_⟩
  intro language packages more extra within
  have fewer := detect_features_within packages more language within
  refine ⟨fewer, detect_features_nodup packages language, mem_detect_features packages language, ?_⟩
  intro text member
  rw [mem_merge_features] at member ⊢
  exact member.imp_left fun isDetected => fewer.subset isDetected

/-- Two packages of one feature, beside one of another, and extra features that repeat it. -/
theorem pug_adds_features :
    ["jade"] ⊆ ["express", "jade", "pug"] ∧
      (detectFeatures ["jade"] .chinese).Sublist
        (detectFeatures ["express", "jade", "pug"] .chinese) ∧
      mergeFeatures (detectFeatures ["jade"] .chinese) ["CLI", "模板引擎 (Jade/Pug)", "CLI"] ⊆
        mergeFeatures (detectFeatures ["express", "jade", "pug"] .chinese)
          ["CLI", "模板引擎 (Jade/Pug)", "CLI"] := by
  have within : ["jade"] ⊆ ["express", "jade", "pug"] := by decide
  obtain ⟨-, -, -, -, -, monotone⟩ := feature_lists_canonical ["CLI", "CLI"] ["CLI"] []
  obtain ⟨fewer, -, -, merged⟩ := monotone .chinese ["jade"] ["express", "jade", "pug"]
    ["CLI", "模板引擎 (Jade/Pug)", "CLI"] within
  exact ⟨within, fewer, merged⟩

example : mergeFeatures (detectFeatures ["left-pad", "pug", "jade", "express"] .english)
      ["CLI", "Express-based web service", "CLI"] =
    ["Express-based web service", "Template engine (Jade/Pug)", "CLI"] := by
  decide

end ReadmePress
