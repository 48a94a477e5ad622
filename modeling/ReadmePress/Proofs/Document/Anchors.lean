import Mathlib.Data.List.Nodup
import ReadmePress.Document.Anchors

/-!
The anchors of a table of contents. The anchor of a title is its slug, with a number behind it
once the slug has been given out before, so titles of one slug never share an anchor. A slug with
a number can be the slug of another title, though; that title then shares its anchor, and in no
other way do two titles come to share one.
-/

namespace ReadmePress

open ReadmePress.Text

/-- The anchor for a slug that has been given out so often. -/
def numberedSlug (slug : String) (count : Nat) : String :=
  if count = 0 then slug else slug ++ "-" ++ toString count

theorem numbered_slug_zero (slug : String) : numberedSlug slug 0 = slug := by
  rfl

theorem numbered_slug_of_pos (slug : String) (count : Nat) (positive : 0 < count) :
    numberedSlug slug count = slug ++ "-" ++ toString count := by
  rw [numberedSlug, if_neg (Nat.ne_of_gt positive)]

theorem hyphen_not_in_number (count : Nat) : '-' ∉ (toString count).toList := by
  rw [Nat.toString_eq_repr, Nat.toList_repr]
  intro member
  exact absurd (Nat.isDigit_of_mem_toDigits (by decide) (by decide) member) (by decide)

theorem number_text_injective (count other : Nat) (same : toString count = toString other) :
    count = other := by
  have digits : Nat.toDigits 10 count = Nat.toDigits 10 other := by
    rw [← Nat.toList_repr, ← Nat.toList_repr, ← Nat.toString_eq_repr, ← Nat.toString_eq_repr, same]
  have value := congrArg (fun digits => Nat.ofDigitChars 10 digits 0) digits
  simpa using value

/-- A text is cut in one way at the first appearance of a character. -/
theorem cut_at_first (mark : Char) (front other back rest : List Char) (absent : mark ∉ front)
    (otherAbsent : mark ∉ other) (same : front ++ mark :: back = other ++ mark :: rest) :
    front = other ∧ back = rest := by
  induction front generalizing other with
  | nil =>
      cases other with
      | nil => exact ⟨rfl, (List.cons.inj same).2⟩
      | cons first more =>
          obtain ⟨rfl, -⟩ := List.cons.inj same
          exact absurd List.mem_cons_self otherAbsent
  | cons character front induction =>
      cases other with
      | nil =>
          obtain ⟨rfl, -⟩ := List.cons.inj same
          exact absurd List.mem_cons_self absent
      | cons first more =>
          obtain ⟨rfl, sameBelow⟩ := List.cons.inj same
          obtain ⟨rfl, sameRest⟩ := induction more (fun member => absent (.tail _ member))
            (fun member => otherAbsent (.tail _ member)) sameBelow
          exact ⟨rfl, sameRest⟩

/-- A number holds no hyphen, so the last hyphen tells the slug from the number behind it. -/
theorem numbered_slug_injective (slug other : String) (count otherCount : Nat)
    (positive : 0 < count) (otherPositive : 0 < otherCount)
    (same : numberedSlug slug count = numberedSlug other otherCount) :
    slug = other ∧ count = otherCount := by
  rw [numbered_slug_of_pos slug count positive,
    numbered_slug_of_pos other otherCount otherPositive] at same
  have hyphen : "-".toList = ['-'] := rfl
  have backwards := congrArg (fun text : String => text.toList.reverse) same
  simp only [String.toList_append, hyphen, List.append_assoc, List.singleton_append,
    List.reverse_append, List.reverse_cons] at backwards
  have noHyphen (number : Nat) : '-' ∉ (toString number).toList.reverse := by
    rw [List.mem_reverse]
    exact hyphen_not_in_number number
  obtain ⟨sameNumber, sameSlug⟩ :=
    cut_at_first '-' _ _ _ _ (noHyphen count) (noHyphen otherCount) backwards
  rw [List.reverse_inj, String.toList_inj] at sameNumber sameSlug
  exact ⟨sameSlug, number_text_injective count otherCount sameNumber⟩

/-- Numbered slugs meet where they are made alike, or where one is numbered and the other one is
a slug that ends so by itself. -/
theorem numbered_slug_meets (slug other : String) (count otherCount : Nat)
    (same : numberedSlug slug count = numberedSlug other otherCount) :
    (slug = other ∧ count = otherCount) ∨
      (0 < count ∧ slug ++ "-" ++ toString count = other) ∨
      (0 < otherCount ∧ other ++ "-" ++ toString otherCount = slug) := by
  rcases Nat.eq_zero_or_pos count with rfl | positive
  · rcases Nat.eq_zero_or_pos otherCount with rfl | otherPositive
    · exact Or.inl ⟨same, rfl⟩
    · rw [numbered_slug_zero, numbered_slug_of_pos other otherCount otherPositive] at same
      exact Or.inr (Or.inr ⟨otherPositive, same.symm⟩)
  · rcases Nat.eq_zero_or_pos otherCount with rfl | otherPositive
    · rw [numbered_slug_zero, numbered_slug_of_pos slug count positive] at same
      exact Or.inr (Or.inl ⟨positive, same⟩)
    · exact Or.inl (numbered_slug_injective slug other count otherCount positive otherPositive same)

/-- Repetitions of one slug never meet. -/
theorem numbered_slug_count_injective (slug : String) (count other : Nat)
    (same : numberedSlug slug count = numberedSlug slug other) : count = other := by
  have longer (number : Nat) : slug ++ "-" ++ toString number ≠ slug := by
    intro isSlug
    have lengths := congrArg String.length isSlug
    have hyphen : "-".length = 1 := rfl
    rw [String.length_append, String.length_append, hyphen] at lengths
    omega
  rcases numbered_slug_meets slug slug count other same with
    ⟨-, sameCount⟩ | ⟨-, isSlug⟩ | ⟨-, isSlug⟩
  · exact sameCount
  · exact absurd isSlug (longer count)
  · exact absurd isSlug (longer other)

namespace TocEntry

theorem entry_at (given : OrderedMap String Nat) (titles : List String) (index : Nat) :
    (ofTitlesAfter given titles)[index]? =
      titles[index]?.map fun title =>
        { title := title
          anchor := numberedSlug (slugify title)
            ((OrderedMap.find? given (slugify title)).getD 0
              + ((titles.take index).map slugify).count (slugify title)) } := by
  induction titles generalizing given index with
  | nil => rfl
  | cons first rest induction =>
      cases index with
      | zero => rfl
      | succ index =>
          rw [ofTitlesAfter, List.getElem?_cons_succ, induction, List.getElem?_cons_succ]
          refine Option.map_congr fun title _ => ?_
          rw [OrderedMap.find?_put, List.take_succ_cons, List.map_cons, List.count_cons]
          by_cases same : slugify first = slugify title
          · simp [same, Nat.add_assoc, Nat.add_comm 1]
          · simp [same]

/-- Titles further down do not change the entries above them. -/
theorem entries_prefix (given : OrderedMap String Nat) (titles more : List String) :
    ofTitlesAfter given titles <+: ofTitlesAfter given (titles ++ more) := by
  induction titles generalizing given with
  | nil => exact List.nil_prefix
  | cons title rest induction =>
      rw [List.cons_append, ofTitlesAfter, ofTitlesAfter, List.cons_prefix_cons]
      exact ⟨rfl, induction _⟩

/-- The entry of a title below the titles of a list. -/
def below (above : List String) (title : String) : TocEntry :=
  { title := title
    anchor := numberedSlug (slugify title) ((above.map slugify).count (slugify title)) }

theorem entries_below (titles : List String) :
    ofTitles titles = titles.mapIdx fun index title => below (titles.take index) title := by
  apply List.ext_getElem?
  intro index
  rw [ofTitles, entry_at, List.getElem?_mapIdx]
  simp [below, OrderedMap.find?]

end TocEntry

/-- The anchors of titles in their order. -/
def tocAnchors (titles : List String) : List String := (TocEntry.ofTitles titles).map (·.anchor)

/-- An anchor is the slug with the number of titles of that slug above. -/
theorem anchor_at (titles : List String) (index : Nat) :
    (tocAnchors titles)[index]? =
      (titles.map slugify)[index]?.map fun slug =>
        numberedSlug slug (((titles.map slugify).take index).count slug) := by
  rw [tocAnchors, TocEntry.ofTitles, List.getElem?_map, TocEntry.entry_at, List.getElem?_map,
    ← List.map_take]
  simp [Function.comp_def, OrderedMap.find?]

/-- Each occurrence of a slug has its place, under as many others as it has before it. -/
theorem occurrence_at (slugs : List String) (slug : String) (count : Nat)
    (more : count < slugs.count slug) :
    ∃ index, slugs[index]? = some slug ∧ (slugs.take index).count slug = count := by
  induction slugs generalizing count with
  | nil => simp at more
  | cons first rest induction =>
      by_cases same : first = slug
      · subst first
        cases count with
        | zero => exact ⟨0, rfl, rfl⟩
        | succ count =>
            rw [List.count_cons_self, Nat.succ_lt_succ_iff] at more
            obtain ⟨index, found, above⟩ := induction count more
            refine ⟨index + 1, found, ?_⟩
            rw [List.take_succ_cons, List.count_cons_self, above]
      · rw [List.count_cons_of_ne same] at more
        obtain ⟨index, found, above⟩ := induction count more
        refine ⟨index + 1, found, ?_⟩
        rw [List.take_succ_cons, List.count_cons_of_ne same, above]

/-- A slug that stands at a place occurs more often than it does above that place. -/
theorem count_above_lt (slugs : List String) (slug : String) (index : Nat)
    (found : slugs[index]? = some slug) : (slugs.take index).count slug < slugs.count slug := by
  obtain ⟨bound, here⟩ := List.getElem?_eq_some_iff.mp found
  have next : (slugs.take (index + 1)).count slug = (slugs.take index).count slug + 1 := by
    rw [List.take_add_one, found, List.count_append]
    simp
  have within := (List.take_sublist (index + 1) slugs).count_le slug
  omega

theorem count_above_lt_below (slugs : List String) (slug : String) (upper lower : Nat)
    (above : upper < lower) (found : slugs[upper]? = some slug) :
    (slugs.take upper).count slug < (slugs.take lower).count slug := by
  have foundAbove : (slugs.take lower)[upper]? = some slug := by
    rw [List.getElem?_take_of_lt above, found]
  have counted := count_above_lt (slugs.take lower) slug upper foundAbove
  rwa [List.take_take, Nat.min_eq_left (Nat.le_of_lt above)] at counted

theorem same_slug_anchors_differ (titles : List String) :
    (TocEntry.ofTitles titles).Pairwise fun upper lower =>
      slugify upper.title = slugify lower.title → upper.anchor ≠ lower.anchor := by
  rw [TocEntry.entries_below, List.pairwise_iff_getElem]
  intro upper lower upperBound lowerBound above
  rw [List.length_mapIdx] at upperBound
  rw [List.getElem_mapIdx, List.getElem_mapIdx]
  simp only [TocEntry.below, List.map_take]
  intro sameSlug sameAnchor
  have found : (titles.map slugify)[upper]? = some (slugify titles[upper]) := by
    rw [List.getElem?_map, List.getElem?_eq_getElem upperBound, Option.map_some]
  have more := count_above_lt_below _ _ upper lower above found
  rw [← sameSlug] at sameAnchor
  exact Nat.ne_of_lt more (numbered_slug_count_injective _ _ _ sameAnchor)

/-- The entries of a table of contents are its titles in order. The anchor of a title is its slug,
followed by the number of titles above that have the same slug once there is one, so titles of one
slug have different anchors; and what stands further down changes no entry. -/
theorem entries_number_repeated_slugs (titles : List String) :
    (TocEntry.ofTitles titles = titles.mapIdx fun index title =>
        let repeated := ((titles.take index).map slugify).count (slugify title)
        { title := title
          anchor := if repeated = 0 then slugify title
            else slugify title ++ "-" ++ toString repeated }) ∧
      ((TocEntry.ofTitles titles).Pairwise fun upper lower =>
        slugify upper.title = slugify lower.title → upper.anchor ≠ lower.anchor) ∧
      ∀ more, TocEntry.ofTitles titles <+: TocEntry.ofTitles (titles ++ more) :=
  ⟨TocEntry.entries_below titles, same_slug_anchors_differ titles,
    TocEntry.entries_prefix [] titles⟩

example : (TocEntry.ofTitles ["Tech Stack", "tech-stack", "License"]).map (·.anchor) =
    ["tech-stack", "tech-stack-1", "license"] := by
  decide +kernel

/-- No slug of the titles is another one with a number that is given out for it. -/
def SlugsApart (titles : List String) : Prop :=
  ∀ slug count, 0 < count → count < (titles.map slugify).count slug →
    slug ++ "-" ++ toString count ∉ titles.map slugify

theorem slugs_apart_of_nodup (titles : List String) (distinct : (tocAnchors titles).Nodup) :
    SlugsApart titles := by
  intro slug count positive more member
  rw [← numbered_slug_of_pos slug count positive] at member
  obtain ⟨index, found, above⟩ := occurrence_at _ slug count more
  obtain ⟨other, otherFound, otherAbove⟩ := occurrence_at _ _ 0 (List.count_pos_iff.mpr member)
  have anchor := anchor_at titles index
  have otherAnchor := anchor_at titles other
  rw [found, Option.map_some, above] at anchor
  rw [otherFound, Option.map_some, otherAbove, numbered_slug_zero] at otherAnchor
  obtain ⟨bound, -⟩ := List.getElem?_eq_some_iff.mp anchor
  have samePlace := (List.getElem?_inj bound distinct).mp (anchor.trans otherAnchor.symm)
  rw [← samePlace, found, Option.some.injEq] at otherFound
  rw [← samePlace, ← otherFound, above] at otherAbove
  exact Nat.ne_of_gt positive otherAbove

theorem nodup_of_slugs_apart (titles : List String) (apart : SlugsApart titles) :
    (tocAnchors titles).Nodup := by
  rw [List.nodup_iff_getElem?_ne_getElem?]
  intro upper lower above bound sameAnchor
  obtain ⟨anchor, isAnchor⟩ : ∃ anchor, (tocAnchors titles)[lower]? = some anchor :=
    ⟨_, List.getElem?_eq_getElem bound⟩
  rw [isAnchor, anchor_at] at sameAnchor
  rw [anchor_at] at isAnchor
  obtain ⟨slug, found, numbered⟩ := Option.map_eq_some_iff.mp sameAnchor
  obtain ⟨other, otherFound, otherNumbered⟩ := Option.map_eq_some_iff.mp isAnchor
  have member := List.mem_of_getElem? found
  have otherMember := List.mem_of_getElem? otherFound
  have more := count_above_lt _ slug upper found
  have otherMore := count_above_lt _ other lower otherFound
  rcases numbered_slug_meets _ _ _ _ (numbered.trans otherNumbered.symm) with
    ⟨rfl, sameCount⟩ | ⟨positive, isOther⟩ | ⟨positive, isSlug⟩
  · exact Nat.ne_of_lt (count_above_lt_below _ slug upper lower above found) sameCount
  · exact apart slug _ positive more (isOther ▸ otherMember)
  · exact apart other _ positive otherMore (isSlug ▸ member)

/-- The anchors of titles are pairwise distinct exactly when no title has the slug of another
one with a number that is given out for it. -/
theorem anchors_distinct_iff (titles : List String) :
    ((TocEntry.ofTitles titles).map (·.anchor)).Nodup ↔
      ∀ slug count, 0 < count → count < (titles.map slugify).count slug →
        slug ++ "-" ++ toString count ∉ titles.map slugify :=
  ⟨slugs_apart_of_nodup titles, nodup_of_slugs_apart titles⟩

/-- A title whose slug ends in a number shares its anchor with a repeated title. -/
theorem numbered_title_shares_anchor :
    (TocEntry.ofTitles ["a", "a", "a-1"]).map (·.anchor) = ["a", "a-1", "a-1"] ∧
      ¬ ((TocEntry.ofTitles ["a", "a", "a-1"]).map (·.anchor)).Nodup := by
  decide +kernel

end ReadmePress
