import ReadmePress.Proofs.Outcome
import ReadmePress.Tools.Catalogue

/-!
What the tools leave unchanged. Three of them change no file whatever they are given, and the
fourth changes none unless its confirmation is given and means yes.
-/

namespace ReadmePress

open ReadmePress.Text

/-- A value that means yes where a truth value is asked for. -/
def Json.MeansYes : Json → Prop
  | .bool value => value = true
  | .integer value => value = 1
  | .float value => value.toInt? = some 1
  | .string text => ∃ word, text.toString? = some word ∧
      String.ofList (word.toList.map Char.toLower) ∈ ["1", "t", "y", "on", "yes", "true"]
  | _ => False

namespace Reader

theorem truth_of_integer_eq_true_iff (value : Int) (input : Json) :
    truthOfInteger value input = .ok true ↔ value = 1 := by
  unfold truthOfInteger
  split
  next isZero => simp [isZero]
  next =>
    split
    next isOne => simp [isOne]
    next other => simp [Validated.refuse, other]

theorem one_is_in_bounds : (-wordBound < 1 && 1 < wordBound) = true := by
  decide

theorem truth_eq_true_iff (input : Json) : truth input = .ok true ↔ input.MeansYes := by
  cases input with
  | null => simp [truth, Validated.refuse, Json.MeansYes]
  | bool value => simp [truth, Json.MeansYes]
  | integer value =>
      simp only [truth, Json.MeansYes]
      split
      next => exact truth_of_integer_eq_true_iff value _
      next outside =>
        have notOne : value ≠ 1 := by
          rintro rfl
          exact outside (by decide)
        simp [Validated.refuse, notOne]
  | float value =>
      simp only [truth, Json.MeansYes]
      cases value.toInt? with
      | none => simp [Validated.refuse]
      | some integer =>
          simp only [Option.some.injEq]
          split
          next => exact truth_of_integer_eq_true_iff integer _
          next outside =>
            have notOne : integer ≠ 1 := by
              rintro rfl
              exact outside one_is_in_bounds
            simp [Validated.refuse, notOne]
  | string text =>
      simp only [truth, Json.MeansYes]
      cases text.toString? with
      | none => simp [Validated.refuse]
      | some word =>
          simp only [Option.some.injEq, exists_eq_left', trueWords, List.contains_iff_mem]
          split
          next isYes => simp [isYes]
          next noYes =>
            split
            · simpa using noYes
            · simpa [Validated.refuse] using noYes
  | array items => simp [truth, Validated.refuse, Json.MeansYes]
  | object members => simp [truth, Validated.refuse, Json.MeansYes]

end Reader

/-- The confirmation is given among the members and means yes. -/
def Members.Confirm (members : Members) : Prop :=
  ∃ value, Json.member? members "confirm" = some value ∧ value.MeansYes

namespace Tool

theorem within_eq_ok {Value : Type} (step : IssueStep) (value : Validated Value)
    (result : Value) : Validated.within step value = .ok result ↔ value = .ok result :=
  map_error_ok_iff _ value result

/-- Arguments that ask for a writing come from members that confirm it. -/
theorem confirm_of_read (members : Members) (arguments : WriteArguments)
    (done : WriteArguments.read members = .ok arguments)
    (confirmed : arguments.confirm = true) : Members.Confirm members := by
  unfold WriteArguments.read at done
  simp only at done
  split at done
  next path content confirm _ _ asConfirm =>
    simp only [Except.ok.injEq] at done
    subst done
    simp only at confirmed
    subst confirmed
    unfold Argument.withDefault Argument.given? Argument.ofName at asConfirm
    cases given : Json.member? members "confirm" with
    | none => simp [given] at asConfirm
    | some value =>
        simp only [given, within_eq_ok] at asConfirm
        exact ⟨value, given, (Reader.truth_eq_true_iff value).mp asConfirm⟩
  next => simp at done

theorem reading_files (workspace : Workspace) (tool : Tool) {Value : Type}
    (arguments : Validated Value) (run : Value → Traced Failure String) :
    (tool.reading workspace arguments run).files = workspace.files := by
  rfl

theorem write_unconfirmed (workspace : Workspace) (members : Members)
    (unconfirmed : ¬ Members.Confirm members) :
    (Tool.write.invoke workspace members).files = workspace.files := by
  simp only [invoke]
  split
  next => rfl
  next arguments valid =>
    have noConfirm : arguments.confirm = false := by
      cases confirm : arguments.confirm with
      | false => rfl
      | true =>
          have read : WriteArguments.read members = .ok arguments :=
            (map_error_ok_iff _ _ _).mp valid
          exact absurd (confirm_of_read members arguments read confirm) unconfirmed
    simp [Workspace.writeFile, noConfirm]

theorem invoke_unconfirmed (workspace : Workspace) (tool : Tool) (members : Members)
    (unconfirmed : tool = .write → ¬ Members.Confirm members) :
    (tool.invoke workspace members).files = workspace.files := by
  cases tool with
  | detect => exact reading_files workspace .detect _ _
  | short => exact reading_files workspace .short _ _
  | full => exact reading_files workspace .full _ _
  | write => exact write_unconfirmed workspace members (unconfirmed rfl)

end Tool

end ReadmePress
