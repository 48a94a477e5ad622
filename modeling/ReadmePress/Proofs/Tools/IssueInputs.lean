import ReadmePress.Proofs.Tools.Refusals

/-!
The inputs of issues. Where arguments are refused, every issue that says of a text that it is ill
formed has a text with lone surrogates for its input, whatever the tool and wherever in the
arguments the text stands.
-/

namespace ReadmePress

open ReadmePress.Text

/-- A text that holds lone surrogates. -/
def Json.IsIllFormed (value : Json) : Prop := ∃ text, value = .string text ∧ text.toChars? = none

/-- Of a text that holds no lone surrogates no issue says that it is ill formed. -/
def Issue.IsHonest (issue : Issue) : Prop :=
  issue.kind = .illFormedText → issue.input.IsIllFormed

namespace Validated

variable {Value Other : Type}

def Honest (value : Validated Value) : Prop := ∀ issue ∈ value.issues, issue.IsHonest

theorem honest_ok (value : Value) : Honest (.ok value) := nofun

theorem honest_refuse (kind : IssueKind) (input : Json) (other : kind ≠ .illFormedText) :
    Honest (refuse kind input : Validated Value) := by
  intro issue member isIllFormed
  obtain rfl := List.mem_singleton.mp member
  exact absurd isIllFormed other

theorem honest_ill_formed (text : WideText) (illFormed : text.toChars? = none) :
    Honest (refuse .illFormedText (.string text) : Validated Value) := by
  intro issue member _
  obtain rfl := List.mem_singleton.mp member
  exact ⟨text, rfl, illFormed⟩

theorem honest_within (step : IssueStep) (value : Validated Value) (honest : value.Honest) :
    (within step value).Honest := by
  cases value with
  | ok result => exact nofun
  | error issues =>
      intro issue member
      obtain ⟨inner, isInner, rfl⟩ := List.mem_map.mp member
      exact honest inner isInner

theorem honest_map (value : Validated Value) (change : Value → Other) (honest : value.Honest) :
    Honest (value.map change) := by
  cases value with
  | ok result => exact nofun
  | error issues => exact honest

theorem honest_ite (condition : Prop) [Decidable condition] (first second : Validated Value)
    (firstHonest : first.Honest) (secondHonest : second.Honest) :
    Honest (if condition then first else second) := by
  split
  · exact firstHonest
  · exact secondHonest

theorem honest_issues_append (first second : List Issue)
    (firstHonest : ∀ issue ∈ first, issue.IsHonest)
    (secondHonest : ∀ issue ∈ second, issue.IsHonest) :
    ∀ issue ∈ first ++ second, issue.IsHonest := by
  intro issue member
  rcases List.mem_append.mp member with inFirst | inSecond
  · exact firstHonest issue inFirst
  · exact secondHonest issue inSecond

end Validated

theorem ill_formed_of_string (text : WideText) (noString : text.toString? = none) :
    text.toChars? = none := by
  simpa [WideText.toString?] using noString

namespace Reader

open Validated

variable {Value : Type}

theorem text_honest (least : Nat) (input : Json) : (text least input).Honest := by
  unfold text
  split
  next value =>
    split
    next noString => exact honest_ill_formed value (ill_formed_of_string value noString)
    next => exact honest_ite _ _ _ (honest_refuse _ _ (by simp)) (honest_ok _)
  next => exact honest_refuse _ _ (by simp)

theorem optional_honest (reader : Reader Value) (honest : ∀ input, (reader input).Honest)
    (input : Json) : (Reader.optional reader input).Honest := by
  unfold Reader.optional
  split
  · exact honest_ok _
  · exact honest_map _ _ (honest _)

theorem items_honest (reader : Reader Value) (honest : ∀ input, (reader input).Honest)
    (place : Nat) (items : List Json) : (itemsFrom reader place items).Honest := by
  induction items generalizing place with
  | nil => exact honest_ok _
  | cons item rest induction =>
      unfold itemsFrom
      simp only
      split
      · exact honest_ok _
      · exact honest_issues_append _ _ (honest_within _ _ (honest item)) (induction (place + 1))

theorem list_honest (reader : Reader Value) (honest : ∀ input, (reader input).Honest)
    (input : Json) : (Reader.list reader input).Honest := by
  unfold Reader.list
  split
  · exact items_honest reader honest 0 _
  · exact honest_refuse _ _ (by simp)

theorem any_integer_honest (input : Json) : (anyInteger input).Honest := by
  unfold anyInteger
  split
  next => exact honest_ok _
  next => exact honest_ok _
  next =>
    split
    · exact honest_ite _ _ _ (honest_ok _) (honest_refuse _ _ (by simp))
    · exact honest_refuse _ _ (by simp)
    · exact honest_refuse _ _ (by simp)
  next value =>
    split
    next illFormed => exact honest_ill_formed value illFormed
    next =>
      split
      · exact honest_ok _
      · exact honest_refuse _ _ (by simp)
      · exact honest_refuse _ _ (by simp)
  next => exact honest_refuse _ _ (by simp)

theorem integer_honest (least greatest : Int) (input : Json) :
    (integer least greatest input).Honest := by
  have any := any_integer_honest input
  unfold integer
  cases read : anyInteger input with
  | error issues =>
      rw [read] at any
      exact any
  | ok value =>
      have inBounds := honest_ite (greatest < value) (Validated.refuse (.above greatest) input)
        (.ok value) (honest_refuse _ _ (by simp)) (honest_ok _)
      exact honest_ite _ _ _ (honest_refuse _ _ (by simp)) inBounds

theorem truth_of_integer_honest (value : Int) (input : Json) :
    (truthOfInteger value input).Honest :=
  honest_ite _ _ _ (honest_ok _)
    (honest_ite _ _ _ (honest_ok _) (honest_refuse _ _ (by simp)))

theorem truth_honest (input : Json) : (truth input).Honest := by
  unfold truth
  split
  next => exact honest_ok _
  next =>
    exact honest_ite _ _ _ (truth_of_integer_honest _ _) (honest_refuse _ _ (by simp))
  next =>
    split
    · exact honest_ite _ _ _ (truth_of_integer_honest _ _) (honest_refuse _ _ (by simp))
    · exact honest_refuse _ _ (by simp)
  next value =>
    split
    next noString => exact honest_ill_formed value (ill_formed_of_string value noString)
    next =>
      exact honest_ite _ _ _ (honest_ok _)
        (honest_ite _ _ _ (honest_ok _) (honest_refuse _ _ (by simp)))
  next => exact honest_refuse _ _ (by simp)

theorem choice_honest (choices : List String) (input : Json) :
    (choice choices input).Honest := by
  unfold choice
  simp only
  split
  · split
    · exact honest_ok _
    · exact honest_refuse _ _ (by simp)
  · exact honest_refuse _ _ (by simp)

end Reader

namespace Argument

open Validated

variable {Value : Type}

theorem required_honest (argument : Argument) (reader : Reader Value)
    (honest : ∀ input, (reader input).Honest) (members : Members) :
    (argument.required reader members).Honest := by
  unfold required
  split
  · exact honest_within _ _ (honest _)
  · exact honest_within _ _ (honest_refuse _ _ nofun)

theorem default_honest (argument : Argument) (default : Value) (reader : Reader Value)
    (honest : ∀ input, (reader input).Honest) (members : Members) :
    (argument.withDefault default reader members).Honest := by
  unfold withDefault
  split
  · exact honest_within _ _ (honest _)
  · exact honest_ok _

theorem optional_honest (argument : Argument) (reader : Reader Value)
    (honest : ∀ input, (reader input).Honest) (members : Members) :
    (argument.optional reader members).Honest :=
  default_honest argument none _ (Reader.optional_honest reader honest) members

end Argument

namespace Tool

open Validated

theorem honest_of_refusal {Value : Type} (value : Validated Value) (honest : value.Honest)
    (issues : List Issue) (refused : value.refusal? = some issues) :
    ∀ issue ∈ issues, issue.IsHonest := by
  rw [refusal_eq_some value issues refused] at honest
  exact honest

/-- Where a tool refuses its arguments, what is said to be ill formed is. -/
theorem refusal_honest (tool : Tool) (members : Members) (issues : List Issue)
    (refused : tool.refusal? members = some issues) : ∀ issue ∈ issues, issue.IsHonest := by
  have text := fun (argument : Argument) least =>
    argument.required_honest _ (Reader.text_honest least) members
  have optionalText := fun argument : Argument =>
    argument.optional_honest _ (Reader.text_honest 0) members
  have texts := fun argument : Argument =>
    argument.optional_honest _ (Reader.list_honest _ (Reader.text_honest 0)) members
  have truth := fun argument : Argument =>
    argument.optional_honest _ Reader.truth_honest members
  cases tool with
  | detect =>
      exact honest_of_refusal _ (honest_map _ _ (optionalText _)) issues refused
  | short =>
      refine honest_of_refusal _ ?_ issues refused
      unfold ShortArguments.read
      simp only
      split
      · exact honest_ok _
      · exact honest_issues_append _ _
          (honest_issues_append _ _ (text _ _) (optionalText _)) (texts _)
  | write =>
      refine honest_of_refusal _ ?_ issues refused
      unfold WriteArguments.read
      simp only
      split
      · exact honest_ok _
      · exact honest_issues_append _ _ (honest_issues_append _ _ (text _ _) (text _ _))
          (Argument.default_honest _ _ _ Reader.truth_honest members)
  | full =>
      refine honest_of_refusal _ ?_ issues refused
      unfold FullArguments.read
      simp only
      split
      · exact honest_ok _
      · have depth := (Argument.mk "maxTreeDepth" "max_tree_depth").optional_honest _
          (Reader.integer_honest leastDepth greatestDepth) members
        have language := (Argument.ofName "language").optional_honest _
          (Reader.choice_honest (Language.all.map Language.code)) members
        refine honest_issues_append _ _ ?_ language
        refine honest_issues_append _ _ ?_ depth
        refine honest_issues_append _ _ ?_ (truth _)
        refine honest_issues_append _ _ ?_ (truth _)
        refine honest_issues_append _ _ ?_ (texts _)
        exact honest_issues_append _ _
          (honest_issues_append _ _ (optionalText _) (optionalText _)) (optionalText _)

end Tool

end ReadmePress
