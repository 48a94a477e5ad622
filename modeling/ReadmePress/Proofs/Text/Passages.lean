/-!
Passages of a text that follow a rule, found from the left. A scan takes the first passage that
starts at a place or after it, goes on behind it, and skips none on the way; where the rule tells
what a passage is from its start, there is one such list of passages only.
-/

namespace ReadmePress.Text

/-- A stretch of a text, and what it stands for. -/
structure Passage (Value : Type) where
  start : Nat
  stop : Nat
  value : Value

/-- When a piece of a text stands for a value, given the characters next to it on both sides. -/
abbrev PassageRule (Value : Type) := Option Char → List Char → Option Char → Value → Prop

variable {Value : Type}

/-- The passage is a piece of the text that stands for its value. -/
def Passage.StandsIn (rule : PassageRule Value) (text : List Char) (passage : Passage Value) :
    Prop :=
  ∃ before piece after, text = before ++ (piece ++ after) ∧ passage.start = before.length ∧
    passage.stop = before.length + piece.length ∧
    rule before.getLast? piece after.head? passage.value

/-- The passages from a place on: each of them starts where, after the end of the one before it,
a passage starts for the first time. -/
inductive Leftmost (rule : PassageRule Value) (text : List Char) :
    Nat → List (Passage Value) → Prop where
  | none (place : Nat)
      (nothing : ∀ passage : Passage Value, passage.StandsIn rule text →
        ¬ place ≤ passage.start) :
      Leftmost rule text place []
  | next (place : Nat) (first : Passage Value) (others : List (Passage Value))
      (stands : first.StandsIn rule text) (onward : place ≤ first.start)
      (skipsNone : ∀ passage : Passage Value, passage.StandsIn rule text →
        place ≤ passage.start → first.start ≤ passage.start)
      (behind : Leftmost rule text first.stop others) : Leftmost rule text place (first :: others)

/-- A search at a single place: it tells the value of a piece that a text starts with, and what
follows the piece. -/
abbrev Search (Value : Type) := Option Char → List Char → Option (Value × List Char)

/-- The search finds what follows the rule and nothing else, and never an empty piece. -/
structure Search.Follows (find : Search Value) (rule : PassageRule Value) : Prop where
  found : ∀ before text value remaining, find before text = some (value, remaining) →
    ∃ piece, text = piece ++ remaining ∧ rule before piece remaining.head? value
  finds : ∀ before piece remaining value, rule before piece remaining.head? value →
    find before (piece ++ remaining) = some (value, remaining)
  notEmpty : ∀ before piece after value, rule before piece after value → piece ≠ []

/-- The values from a place on by a search at every place. The next `passing` characters belong
to the last passage. -/
def scanWith (find : Search Value) :
    (passing : Nat) → (before : Option Char) → List Char → List Value
  | _, _, [] => []
  | passing + 1, _, character :: rest => scanWith find passing (some character) rest
  | 0, before, character :: rest =>
      match find before (character :: rest) with
      | some (value, remaining) =>
          value :: scanWith find (rest.length - remaining.length) (some character) rest
      | none => scanWith find 0 (some character) rest

section Leftmost

variable (rule : PassageRule Value) (text : List Char)

/-- A place where no passage starts can be left out of a search. -/
theorem leftmost_from_next (place : Nat) (passages : List (Passage Value))
    (nothing : ∀ passage : Passage Value, passage.StandsIn rule text → passage.start ≠ place)
    (leftmost : Leftmost rule text (place + 1) passages) : Leftmost rule text place passages := by
  have later : ∀ passage : Passage Value, passage.StandsIn rule text → place ≤ passage.start →
      place + 1 ≤ passage.start := by
    intro passage stands atLeast
    exact Nat.lt_of_le_of_ne atLeast (nothing passage stands).symm
  cases leftmost with
  | none _ nothingAfter =>
      exact .none place fun passage stands atLeast =>
        nothingAfter passage stands (later passage stands atLeast)
  | next _ first others stands onward skipsNone behind =>
      refine .next place first others stands (Nat.le_of_succ_le onward) ?_ behind
      exact fun passage isPassage atLeast =>
        skipsNone passage isPassage (later passage isPassage atLeast)

theorem leftmost_stand (place : Nat) (passages : List (Passage Value))
    (leftmost : Leftmost rule text place passages) :
    ∀ passage ∈ passages, passage.StandsIn rule text := by
  induction leftmost with
  | none => simp
  | next place first others stands onward skipsNone behind induction =>
      exact List.forall_mem_cons.mpr ⟨stands, induction⟩

/-- Where passages never overlap, none of them is left out. -/
theorem mem_leftmost
    (apart : ∀ passage other : Passage Value, passage.StandsIn rule text →
      other.StandsIn rule text → passage.start < other.start → passage.stop ≤ other.start)
    (determined : ∀ passage other : Passage Value, passage.StandsIn rule text →
      other.StandsIn rule text → passage.start = other.start → passage = other)
    (place : Nat) (passages : List (Passage Value))
    (leftmost : Leftmost rule text place passages) (passage : Passage Value)
    (stands : passage.StandsIn rule text) (onward : place ≤ passage.start) :
    passage ∈ passages := by
  induction leftmost with
  | none place nothing => exact absurd onward (nothing passage stands)
  | next place first others isPassage _ skipsNone behind induction =>
      rcases Nat.lt_or_eq_of_le (skipsNone passage stands onward) with later | same
      · have afterFirst := apart first passage isPassage stands later
        exact List.mem_cons_of_mem first (induction afterFirst)
      · rw [determined first passage isPassage stands same]
        exact List.mem_cons_self

theorem leftmost_unique
    (determined : ∀ passage other : Passage Value, passage.StandsIn rule text →
      other.StandsIn rule text → passage.start = other.start → passage = other)
    (place : Nat) (passages others : List (Passage Value))
    (leftmost : Leftmost rule text place passages)
    (otherLeftmost : Leftmost rule text place others) : passages = others := by
  induction leftmost generalizing others with
  | none place nothing =>
      cases otherLeftmost with
      | none => rfl
      | next _ first rest stands onward => exact absurd onward (nothing first stands)
  | next place first rest stands onward skipsNone behind induction =>
      cases otherLeftmost with
      | none _ nothing => exact absurd onward (nothing first stands)
      | next _ second more secondStands secondOnward skipsNoneBefore secondBehind =>
          have sameStart := Nat.le_antisymm (skipsNone second secondStands secondOnward)
            (skipsNoneBefore first stands onward)
          obtain rfl := determined first second stands secondStands sameStart
          rw [induction more secondBehind]

end Leftmost

section Scan

variable (find : Search Value) (rule : PassageRule Value) (follows : find.Follows rule)
include follows

/-- The start of a passage tells its end and its value. -/
theorem passage_determined (text : List Char) (passage other : Passage Value)
    (stands : passage.StandsIn rule text) (otherStands : other.StandsIn rule text)
    (sameStart : passage.start = other.start) : passage = other := by
  obtain ⟨start, stop, value⟩ := passage
  obtain ⟨otherStart, otherStop, otherValue⟩ := other
  obtain ⟨before, piece, after, cut, rfl, rfl, standsFor⟩ := stands
  obtain ⟨front, part, rest, otherCut, rfl, rfl, otherStandsFor⟩ := otherStands
  obtain ⟨rfl, below⟩ := List.append_inj (cut.symm.trans otherCut) sameStart
  have found := follows.finds _ piece after value standsFor
  rw [below, follows.finds _ part rest otherValue otherStandsFor, Option.some.injEq,
    Prod.mk.injEq] at found
  obtain ⟨rfl, rfl⟩ := found
  rw [List.append_cancel_right_eq] at below
  rw [below]

theorem found_passage (before rest remaining : List Char) (value : Value)
    (found : find before.getLast? rest = some (value, remaining)) :
    ∃ piece, rest = piece ++ remaining ∧ piece ≠ [] ∧
      Passage.StandsIn rule (before ++ rest)
        { start := before.length, stop := before.length + piece.length, value := value } := by
  obtain ⟨piece, rfl, standsFor⟩ := follows.found _ _ _ _ found
  exact ⟨piece, rfl, follows.notEmpty _ _ _ _ standsFor, before, piece, remaining, rfl, rfl, rfl,
    standsFor⟩

/-- Where the search finds nothing, no passage starts. -/
theorem no_passage_at (before rest : List Char) (nothing : find before.getLast? rest = none)
    (passage : Passage Value) (stands : passage.StandsIn rule (before ++ rest)) :
    passage.start ≠ before.length := by
  intro atPlace
  obtain ⟨front, piece, after, cut, start, -, standsFor⟩ := stands
  obtain ⟨rfl, rfl⟩ := List.append_inj cut (atPlace.symm.trans start)
  rw [follows.finds _ piece after _ standsFor] at nothing
  exact absurd nothing (by simp)

theorem no_passage_at_end (text : List Char) (place : Nat) (atEnd : text.length ≤ place)
    (passage : Passage Value) (stands : passage.StandsIn rule text) :
    ¬ place ≤ passage.start := by
  obtain ⟨before, piece, after, rfl, start, -, standsFor⟩ := stands
  have positive := List.length_pos_iff.mpr (follows.notEmpty _ _ _ _ standsFor)
  simp only [List.length_append] at atEnd
  omega

/-- From every place on, a scan gives the values of the leftmost passages. -/
theorem scan_with_leftmost (passing : Nat) (before rest : List Char) :
    ∃ passages, Leftmost rule (before ++ rest) (before.length + passing) passages ∧
      scanWith find passing before.getLast? rest = passages.map (·.value) := by
  induction rest generalizing before passing with
  | nil =>
      refine ⟨[], .none _ ?_, by rw [scanWith]; rfl⟩
      apply no_passage_at_end find rule follows
      simp
  | cons character rest induction =>
      have step := fun passing => induction passing (before ++ [character])
      simp only [List.append_assoc, List.singleton_append, List.length_append,
        List.length_singleton, List.getLast?_append, List.getLast?_singleton,
        Option.some_or] at step
      cases passing with
      | succ passing =>
          obtain ⟨passages, leftmost, values⟩ := step passing
          refine ⟨passages, ?_, values⟩
          rwa [Nat.add_assoc, Nat.add_comm 1] at leftmost
      | zero =>
          rw [scanWith]
          cases found : find before.getLast? (character :: rest) with
          | none =>
              obtain ⟨passages, leftmost, values⟩ := step 0
              refine ⟨passages, ?_, values⟩
              apply leftmost_from_next rule _ _ _ _ leftmost
              exact no_passage_at find rule follows before _ found
          | some result =>
              obtain ⟨value, remaining⟩ := result
              obtain ⟨piece, cut, notEmpty, stands⟩ :=
                found_passage find rule follows before _ remaining value found
              obtain ⟨passages, leftmost, values⟩ := step (rest.length - remaining.length)
              have stop : before.length + 1 + (rest.length - remaining.length) =
                  before.length + piece.length := by
                have positive := List.length_pos_iff.mpr notEmpty
                have sizes := congrArg List.length cut
                simp only [List.length_cons, List.length_append] at sizes
                omega
              rw [stop] at leftmost
              refine ⟨_, .next _ _ passages stands (Nat.le_refl _) ?_ leftmost, ?_⟩
              · exact fun passage _ onward => onward
              · simp [values]

/-- A scan of a text gives the values of its leftmost passages, of which there is one list. -/
theorem scan_with_values (text : List Char) :
    ∃ passages, (∀ others, Leftmost rule text 0 others ↔ others = passages) ∧
      scanWith find 0 none text = passages.map (·.value) := by
  obtain ⟨passages, leftmost, values⟩ := scan_with_leftmost find rule follows 0 [] text
  refine ⟨passages, fun others => ⟨fun also => ?_, fun same => same ▸ leftmost⟩, values⟩
  exact leftmost_unique rule text (passage_determined find rule follows text) 0 others passages
    also leftmost

end Scan

end ReadmePress.Text
