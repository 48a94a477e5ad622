import ReadmePress.Text.Blank
import ReadmePress.Text.Lowercase
import ReadmePress.Text.Word

/-!
How the classes of characters lie to each other. No word character is white space. No lower-case
form is a capital again, so lower case leaves its own results as they are, also where a capital
becomes two characters and where a sigma ends a word.
-/

namespace ReadmePress.Text

theorem range_of_contains (ranges : Ranges) (character : Char)
    (held : ranges.contains character = true) :
    ∃ range ∈ ranges, range.1 ≤ character.toNat ∧ character.toNat ≤ range.2 := by
  induction ranges with
  | nil => exact absurd held Bool.false_ne_true
  | cons range rest induction =>
      rw [Ranges.contains] at held
      split at held
      next => exact absurd held Bool.false_ne_true
      next above =>
        rcases Bool.or_eq_true_iff.mp held with below | later
        · exact ⟨range, List.mem_cons_self, Nat.not_lt.mp above, of_decide_eq_true below⟩
        · obtain ⟨other, member, within⟩ := induction later
          exact ⟨other, List.mem_cons_of_mem range member, within⟩

/-- Whether two ranges share no code point; a Boolean, so that whole tables are checked by it. -/
def beside (range other : Nat × Nat) : Bool :=
  Nat.blt range.2 other.1 || Nat.blt other.2 range.1

theorem beside_iff (range other : Nat × Nat) :
    beside range other = true ↔ range.2 < other.1 ∨ other.2 < range.1 := by
  rw [beside, Bool.or_eq_true, Nat.blt_eq, Nat.blt_eq]

/-- White space as ranges of code points. -/
def blankRanges : Ranges :=
  [(9, 13), (28, 32), (0x85, 0x85), (0xa0, 0xa0), (0x1680, 0x1680), (0x2000, 0x200a),
   (0x2028, 0x2029), (0x202f, 0x202f), (0x205f, 0x205f), (0x3000, 0x3000)]

theorem blank_iff (character : Char) :
    isBlank character = true ↔
      ∃ range ∈ blankRanges, range.1 ≤ character.toNat ∧ character.toNat ≤ range.2 := by
  simp only [isBlank, Bool.or_eq_true, Bool.and_eq_true, decide_eq_true_eq, beq_iff_eq, blankRanges,
    List.mem_cons, List.not_mem_nil, or_false, exists_eq_or_imp, exists_eq_left]
  omega

theorem words_beside_blanks :
    (wordRanges.all fun word => blankRanges.all (beside word)) = true := by
  decide +kernel

theorem word_is_not_blank (character : Char) (word : isWord character = true) :
    isBlank character = false := by
  obtain ⟨wordRange, isWordRange, afterFirst, beforeLast⟩ := range_of_contains _ _ word
  rw [Bool.eq_false_iff]
  intro blank
  obtain ⟨blankRange, isBlankRange, afterBlank, beforeBlank⟩ := (blank_iff character).mp blank
  have besideBlanks := List.all_eq_true.mp words_beside_blanks wordRange isWordRange
  have apart := (beside_iff _ _).mp (List.all_eq_true.mp besideBlanks blankRange isBlankRange)
  omega

namespace CaseRun

theorem holds_iff (run : CaseRun) (code : Nat) :
    run.holds code = true ↔
      run.first ≤ code ∧ code ≤ run.last ∧ (code - run.first) % run.step = 0 := by
  simp [holds, and_assoc]

/-- The range of the lower-case forms. -/
def images (run : CaseRun) : Nat × Nat := (run.image, run.image + (run.last - run.first))

theorem image_within (run : CaseRun) (code : Nat) (held : run.holds code = true) :
    run.images.1 ≤ code - run.first + run.image ∧
      code - run.first + run.image ≤ run.images.2 := by
  obtain ⟨afterFirst, beforeLast, -⟩ := (run.holds_iff code).mp held
  simp only [images]
  omega

/-- Whether no lower-case form of one run is a capital of the other one: their ranges are apart,
or the forms stand at the places between the capitals. -/
def misses (run other : CaseRun) : Bool :=
  beside run.images (other.first, other.last) ||
    ((run.step == 2 || run.first == run.last) && other.step == 2 &&
      (run.image + other.first) % 2 == 1)

theorem not_held_of_misses (run other : CaseRun) (code : Nat) (misses : run.misses other = true)
    (held : run.holds code = true) : other.holds (code - run.first + run.image) = false := by
  obtain ⟨afterFirst, beforeLast, onStep⟩ := (run.holds_iff code).mp held
  have within := run.image_within code held
  rw [Bool.eq_false_iff]
  intro otherHeld
  obtain ⟨afterOther, beforeOther, onOtherStep⟩ := (other.holds_iff _).mp otherHeld
  rcases Bool.or_eq_true_iff.mp misses with apart | between
  · have besideOther := (beside_iff _ _).mp apart
    omega
  · -- An even step from an image at an odd distance never meets a capital.
    simp only [Bool.and_eq_true, Bool.or_eq_true, beq_iff_eq] at between
    obtain ⟨⟨spaced, otherStep⟩, odd⟩ := between
    have even : (code - run.first) % 2 = 0 := by
      rcases spaced with step | single
      · rwa [step] at onStep
      · omega
    rw [otherStep] at onOtherStep
    omega

end CaseRun

/-- Characters that lower case does not leave as they are. -/
def IsCapital (character : Char) : Prop :=
  character = '\u0130' ∨ ∃ run ∈ caseRuns, run.holds character.toNat = true

instance (character : Char) : Decidable (IsCapital character) :=
  inferInstanceAs (Decidable (_ ∨ _))

theorem runs_miss_each_other :
    (caseRuns.all fun run => caseRuns.all run.misses) = true := by
  decide +kernel

theorem images_are_scalar :
    ∀ run ∈ caseRuns,
      run.images.2 < 0xd800 ∨ (0xdfff < run.images.1 ∧ run.images.2 < 0x110000) := by
  decide +kernel

theorem images_beside_dotted : ∀ run ∈ caseRuns, beside run.images (0x130, 0x130) = true := by
  decide +kernel

theorem image_of_held (run : CaseRun) (isRun : run ∈ caseRuns) (code : Nat)
    (held : run.holds code = true) :
    (Char.ofNat (code - run.first + run.image)).toNat = code - run.first + run.image := by
  obtain ⟨fromFirst, toLast⟩ := run.image_within code held
  have valid : (code - run.first + run.image).isValidChar := by
    rcases images_are_scalar run isRun with below | ⟨above, below⟩
    · exact Or.inl (Nat.lt_of_le_of_lt toLast below)
    · exact Or.inr ⟨Nat.lt_of_lt_of_le above fromFirst, Nat.lt_of_le_of_lt toLast below⟩
  rw [Char.ofNat, dif_pos valid]
  rfl

theorem image_is_no_capital (run : CaseRun) (isRun : run ∈ caseRuns) (code : Nat)
    (held : run.holds code = true) :
    ¬ IsCapital (Char.ofNat (code - run.first + run.image)) := by
  have image := image_of_held run isRun code held
  rintro (dotted | ⟨other, isOther, otherHeld⟩)
  · have within := run.image_within code held
    have apart := (beside_iff _ _).mp (images_beside_dotted run isRun)
    rw [dotted] at image
    have dot : '\u0130'.toNat = 0x130 := rfl
    omega
  · have missesAll := List.all_eq_true.mp runs_miss_each_other run isRun
    have misses := List.all_eq_true.mp missesAll other isOther
    rw [image, run.not_held_of_misses other code misses held] at otherHeld
    exact Bool.false_ne_true otherHeld

theorem lower_alone_is_no_capital (character lower : Char) (member : lower ∈ lowerAlone character) :
    ¬ IsCapital lower := by
  rw [lowerAlone] at member
  split at member
  next =>
    -- The dotted capital gives an i and a combining dot, which no run holds.
    rcases List.mem_cons.mp member with rfl | later
    · decide +kernel
    · obtain rfl := List.mem_singleton.mp later
      decide +kernel
  next notDotted =>
    cases found : caseRuns.find? (·.holds character.toNat) with
    | none =>
        rw [found] at member
        obtain rfl := List.mem_singleton.mp member
        rintro (dotted | ⟨run, isRun, held⟩)
        · exact notDotted dotted
        · exact List.find?_eq_none.mp found run isRun held
    | some run =>
        rw [found] at member
        obtain rfl := List.mem_singleton.mp member
        have isRun := List.mem_of_find?_eq_some found
        have held : run.holds character.toNat = true := by
          simpa using List.find?_some found
        exact image_is_no_capital run isRun character.toNat held

theorem lowercase_after_has_no_capital (precedingReversed text : List Char) :
    ∀ lower ∈ lowercaseAfter precedingReversed text, ¬ IsCapital lower := by
  induction text generalizing precedingReversed with
  | nil => simp [lowercaseAfter]
  | cons character rest induction =>
      intro lower member
      rw [lowercaseAfter] at member
      rcases List.mem_append.mp member with here | later
      · split at here
        next =>
          obtain rfl := List.mem_singleton.mp here
          split
          · decide +kernel
          · decide +kernel
        next => exact lower_alone_is_no_capital character lower here
      · exact induction _ lower later

theorem lower_alone_of_no_capital (character : Char) (noCapital : ¬ IsCapital character) :
    lowerAlone character = [character] := by
  obtain ⟨notDotted, noRun⟩ := not_or.mp noCapital
  have found : caseRuns.find? (·.holds character.toNat) = none :=
    List.find?_eq_none.mpr fun run isRun held => noRun ⟨run, isRun, held⟩
  rw [lowerAlone, if_neg notDotted, found]

theorem sigma_is_capital : IsCapital '\u03a3' := by
  decide +kernel

theorem lowercase_after_of_no_capital (precedingReversed text : List Char)
    (noCapital : ∀ character ∈ text, ¬ IsCapital character) :
    lowercaseAfter precedingReversed text = text := by
  induction text generalizing precedingReversed with
  | nil => rfl
  | cons character rest induction =>
      have notHere := noCapital character List.mem_cons_self
      have notSigma : character ≠ '\u03a3' := by
        rintro rfl
        exact notHere sigma_is_capital
      rw [lowercaseAfter, if_neg notSigma, lower_alone_of_no_capital character notHere,
        induction _ fun other member => noCapital other (List.mem_cons_of_mem character member)]
      rfl

/-- Lower case leaves exactly the texts without capitals as they are. -/
theorem lowercase_eq_self_iff (text : List Char) :
    lowercase text = text ↔ ∀ character ∈ text, ¬ IsCapital character := by
  constructor
  · intro same
    rw [← same]
    exact lowercase_after_has_no_capital [] text
  · exact lowercase_after_of_no_capital [] text

end ReadmePress.Text
