import ReadmePress.CommandLine.Command
import ReadmePress.Proofs.Facts.ManifestSummary
import ReadmePress.Proofs.Tools.Confirmation
import ReadmePress.Proofs.Tools.Refusals

/-!
The two names of arguments. A command line gives its values the inner names, a request mostly the
public ones. The full document does not depend on which of them are used: members under the public
names are taken just when those under the inner names are, and then they say the same.
-/

namespace ReadmePress

open ReadmePress.Text

namespace Argument

/-- The values that members give to arguments, under the public names. -/
def publicMembers (arguments : List Argument) (members : Members) : Members :=
  arguments.filterMap fun argument =>
    (argument.given? members).map fun given =>
      (WideText.ofString argument.publicName, given.2)

/-- The public name of an argument is no name of another one. -/
def Unambiguous (arguments : List Argument) : Prop :=
  ∀ first ∈ arguments, ∀ second ∈ arguments,
    first.publicName = second.publicName ∨ first.publicName = second.innerName →
      first.publicName = second.publicName ∧ first.innerName = second.innerName

instance (arguments : List Argument) : Decidable (Unambiguous arguments) :=
  inferInstanceAs (Decidable (∀ first ∈ arguments, ∀ second ∈ arguments, _))

theorem eq_of_names (first second : Argument)
    (names : first.publicName = second.publicName ∧ first.innerName = second.innerName) :
    first = second := by
  obtain ⟨publicName, innerName⟩ := first
  obtain ⟨rfl, rfl⟩ := names
  rfl

theorem public_member_cons (argument : Argument) (rest : List Argument) (members : Members)
    (name : String) :
    Json.member? (publicMembers (argument :: rest) members) name =
      if argument.publicName = name then
        ((argument.given? members).map Prod.snd).or
          (Json.member? (publicMembers rest members) name)
      else Json.member? (publicMembers rest members) name := by
  unfold publicMembers Json.member?
  cases given : argument.given? members with
  | none => simp [given]
  | some value =>
      by_cases same : argument.publicName = name
      · simp [given, OrderedMap.find?, same]
      · have other : WideText.ofString argument.publicName ≠ WideText.ofString name :=
          mt (of_string_injective _ _) same
        simp [given, OrderedMap.find?, same, other]

theorem public_member_none (arguments : List Argument) (members : Members) (name : String)
    (notGiven : ∀ argument ∈ arguments, argument.publicName = name →
      argument.given? members = none) :
    Json.member? (publicMembers arguments members) name = none := by
  induction arguments with
  | nil => rfl
  | cons argument rest induction =>
      obtain ⟨here, later⟩ := List.forall_mem_cons.mp notGiven
      rw [public_member_cons, induction later]
      split
      next same => rw [here same]; rfl
      next => rfl

theorem public_member (arguments : List Argument) (members : Members)
    (unambiguous : Unambiguous arguments) (argument : Argument) (known : argument ∈ arguments) :
    Json.member? (publicMembers arguments members) argument.publicName =
      (argument.given? members).map Prod.snd := by
  cases given : argument.given? members with
  | none =>
      apply public_member_none
      intro other member same
      rw [eq_of_names other argument (unambiguous other member argument known (Or.inl same))]
      exact given
  | some value =>
      induction arguments with
      | nil => exact absurd known List.not_mem_nil
      | cons first rest induction =>
          rw [public_member_cons]
          by_cases same : first.publicName = argument.publicName
          · have equal := eq_of_names first argument
              (unambiguous first List.mem_cons_self argument known (Or.inl same))
            rw [equal, if_pos rfl, given]
            rfl
          · have later : argument ∈ rest := by
              rcases List.mem_cons.mp known with rfl | later
              · exact absurd rfl same
              · exact later
            rw [if_neg same]
            exact induction (fun one isOne other isOther => unambiguous one
              (List.mem_cons_of_mem _ isOne) other (List.mem_cons_of_mem _ isOther)) later

/-- Under the public names the same values are given. -/
theorem given_public (arguments : List Argument) (members : Members)
    (unambiguous : Unambiguous arguments) (argument : Argument) (known : argument ∈ arguments) :
    argument.given? (publicMembers arguments members) =
      (argument.given? members).map fun given => (argument.publicName, given.2) := by
  rw [given?, public_member arguments members unambiguous argument known]
  cases given : argument.given? members with
  | some value => rfl
  | none =>
      have noInner :
          Json.member? (publicMembers arguments members) argument.innerName = none := by
        apply public_member_none
        intro other member same
        rw [eq_of_names other argument (unambiguous other member argument known (Or.inr same))]
        exact given
      simp [noInner]

/-- An optional argument has the same value under its public name. -/
theorem optional_public {Value : Type} (arguments : List Argument) (members : Members)
    (unambiguous : Unambiguous arguments) (argument : Argument) (known : argument ∈ arguments)
    (reader : Reader Value) (value : Option Value) :
    argument.optional reader (publicMembers arguments members) = .ok value ↔
      argument.optional reader members = .ok value := by
  unfold optional withDefault
  rw [given_public arguments members unambiguous argument known]
  cases argument.given? members with
  | none => rfl
  | some given => simp only [Option.map_some, Tool.within_eq_ok]

end Argument

namespace FullArguments

/-- The arguments of the full document, in the order in which they are read. -/
def arguments : List Argument :=
  [.ofName "dir", .ofName "name", .ofName "description", .mk "extraFeatures" "extra_features",
    .mk "addBadges" "add_badges", .mk "includeTOC" "include_toc",
    .mk "maxTreeDepth" "max_tree_depth", .ofName "language"]

theorem arguments_unambiguous : Argument.Unambiguous arguments := by
  decide

theorem read_ok_iff (members : Members) (result : FullArguments) :
    read members = .ok result ↔
      (Argument.ofName "dir").optional (Reader.text 0) members = .ok result.directory ∧
      (Argument.ofName "name").optional (Reader.text 0) members = .ok result.name ∧
      (Argument.ofName "description").optional (Reader.text 0) members =
        .ok result.description ∧
      (Argument.mk "extraFeatures" "extra_features").optional (Reader.list (Reader.text 0))
        members = .ok result.extraFeatures ∧
      (Argument.mk "addBadges" "add_badges").optional Reader.truth members =
        .ok result.options.badges ∧
      (Argument.mk "includeTOC" "include_toc").optional Reader.truth members =
        .ok result.options.toc ∧
      (Argument.mk "maxTreeDepth" "max_tree_depth").optional
        (Reader.integer leastDepth greatestDepth) members = .ok result.options.depth ∧
      (Argument.ofName "language").optional (Reader.choice (Language.all.map Language.code))
        members = .ok result.options.language := by
  unfold read
  constructor
  · intro done
    simp only at done
    split at done
    next asDirectory asName asDescription asFeatures asBadges asToc asDepth asLanguage =>
      obtain rfl := Except.ok.inj done
      exact ⟨asDirectory, asName, asDescription, asFeatures, asBadges, asToc, asDepth, asLanguage⟩
    next => exact absurd done nofun
  · rintro ⟨asDirectory, asName, asDescription, asFeatures, asBadges, asToc, asDepth, asLanguage⟩
    simp only [asDirectory, asName, asDescription, asFeatures, asBadges, asToc, asDepth,
      asLanguage]

/-- Arguments under their public names are taken as they are under any. -/
theorem read_public (members : Members) (result : FullArguments) :
    read (Argument.publicMembers arguments members) = .ok result ↔ read members = .ok result := by
  have same {Value : Type} (argument : Argument) (known : argument ∈ arguments)
      (reader : Reader Value) (value : Option Value) :=
    Argument.optional_public arguments members arguments_unambiguous argument known reader value
  rw [read_ok_iff, read_ok_iff]
  refine and_congr (same _ (by simp [arguments]) _ _) ?_
  refine and_congr (same _ (by simp [arguments]) _ _) ?_
  refine and_congr (same _ (by simp [arguments]) _ _) ?_
  refine and_congr (same _ (by simp [arguments]) _ _) ?_
  refine and_congr (same _ (by simp [arguments]) _ _) ?_
  refine and_congr (same _ (by simp [arguments]) _ _) ?_
  exact and_congr (same _ (by simp [arguments]) _ _) (same _ (by simp [arguments]) _ _)

end FullArguments

end ReadmePress
