import ReadmePress.Proofs.Outcome
import ReadmePress.Tools.Catalogue

/-!
When an invocation of a tool fails for what is not valid. Either its arguments are refused, and
then nothing has been read or written, or its result is a text that holds lone surrogates. Every
issue that says of a text that it is ill formed has such a text for its input.
-/

namespace ReadmePress

open ReadmePress.Text

namespace Traced

variable {Fault OtherFault Value Other : Type} {known : Fault → Prop}

/-- A computation only fails with faults of a kind. -/
def OnlyFails (known : Fault → Prop) (traced : Traced Fault Value) : Prop :=
  ∀ fault, traced.outcome = .error fault → known fault

theorem only_fails_pure (value : Value) :
    OnlyFails known (Traced.pure value : Traced Fault Value) :=
  nofun

theorem only_fails_record (level : LogLevel) (source : String) (message : WideText) :
    OnlyFails known (Traced.record level source message : Traced Fault Unit) :=
  nofun

theorem only_fails_fail (fault : Fault) (isKnown : known fault) :
    OnlyFails known (Traced.fail fault : Traced Fault Value) := by
  rintro other failed
  obtain rfl := Except.error.inj failed
  exact isKnown

theorem only_fails_bind (first : Traced Fault Value) (next : Value → Traced Fault Other)
    (firstOnly : OnlyFails known first) (nextOnly : ∀ value, OnlyFails known (next value)) :
    OnlyFails known (first >>= next) := by
  intro fault failed
  rcases bind_error first next fault failed with inFirst | ⟨value, -, inNext⟩
  · exact firstOnly fault inFirst
  · exact nextOnly value fault inNext

theorem only_fails_restated (restate : OtherFault → Fault)
    (restated : ∀ cause, known (restate cause)) (traced : Traced OtherFault Value) :
    OnlyFails known (traced.mapFault restate) := by
  intro fault failed
  obtain ⟨cause, -, rfl⟩ := map_error_error restate traced.outcome fault failed
  exact restated cause

theorem only_fails_except (restate : OtherFault → Fault)
    (restated : ∀ cause, known (restate cause)) (outcome : Except OtherFault Value) :
    OnlyFails known (Traced.ofExcept (outcome.mapError restate)) := by
  intro fault failed
  obtain ⟨cause, -, rfl⟩ := map_error_error restate outcome fault failed
  exact restated cause

end Traced

/-- A failure that is no refusal of arguments: if it comes from anything that is not valid, then
from a text that holds lone surrogates. -/
def Failure.IsOfResult (failure : Failure) : Prop :=
  ∀ kind issues, failure = .invalid kind issues → ∃ text, failure = .illFormed text

namespace Workspace

open Traced

theorem summary_fails (manifest : Manifest) :
    OnlyFails Failure.IsOfResult (summaryText manifest) := by
  unfold summaryText
  simp only
  split
  next plain _ => exact only_fails_pure plain
  next => exact only_fails_fail _ fun _ _ _ => ⟨_, rfl⟩

theorem reading_is_of_result (fault : ReadingFault) :
    Failure.IsOfResult (.ofReading fault) := by
  cases fault <;> exact nofun

theorem listing_is_of_result (fault : ListingFault) :
    Failure.IsOfResult (.ofListing fault) := by
  cases fault <;> exact nofun

theorem detect_fails (workspace : Workspace) (arguments : DetectArguments) :
    OnlyFails Failure.IsOfResult (workspace.detect arguments) := by
  unfold detect
  simp only
  split
  · exact only_fails_pure _
  · refine only_fails_bind _ _ (only_fails_restated _ reading_is_of_result _) ?_
    rintro (nothing | manifest)
    · exact only_fails_bind _ _ (only_fails_record _ _ _) fun _ => only_fails_pure _
    · exact summary_fails manifest

theorem settings_fail (workspace : Workspace) (directory : Path) (given : Option Settings) :
    OnlyFails Failure.IsOfResult (workspace.settingsFor directory given) := by
  cases given with
  | some settings => exact only_fails_pure settings
  | none => exact only_fails_restated _ (fun _ => nofun) _

theorem manifest_fails (workspace : Workspace) (directory : Path) :
    OnlyFails Failure.IsOfResult (workspace.manifestFor directory) := by
  refine only_fails_bind _ _ (only_fails_restated _ reading_is_of_result _) fun manifest => ?_
  simp only
  split
  · exact only_fails_bind _ _ (only_fails_record _ _ _) fun _ => only_fails_pure _
  · exact only_fails_pure _

theorem facts_fail (workspace : Workspace) (directory : Path) (request : FactsRequest) :
    OnlyFails Failure.IsOfResult (workspace.collectFacts directory request) := by
  refine only_fails_bind _ _ (workspace.settings_fail directory _) fun settings => ?_
  refine only_fails_bind _ _ (workspace.manifest_fails directory) fun manifest => ?_
  refine only_fails_bind _ _ (only_fails_except _ (fun _ => nofun) _) fun options => ?_
  refine only_fails_bind _ _ ?_ fun badges => ?_
  · split
    · exact only_fails_except _ (fun _ => nofun) _
    · exact nofun
  refine only_fails_bind _ _ (only_fails_except _ (fun _ => nofun) _) fun name => ?_
  refine only_fails_bind _ _ (only_fails_except _ listing_is_of_result _) fun listing => ?_
  refine only_fails_bind _ _ (only_fails_restated _ reading_is_of_result _) fun routes => ?_
  refine only_fails_bind _ _ (only_fails_restated _ reading_is_of_result _) fun keys => ?_
  exact only_fails_bind _ _ (only_fails_record _ _ _) fun _ => only_fails_pure _

theorem document_fails (facts : WideFacts) :
    OnlyFails Failure.IsOfResult (documentOf facts) := by
  unfold documentOf
  split
  next sheet _ => exact only_fails_pure (fullDocument sheet)
  next => exact only_fails_fail _ fun _ _ _ => ⟨_, rfl⟩

theorem describe_fails (workspace : Workspace) (arguments : FullArguments) :
    OnlyFails Failure.IsOfResult (workspace.describe arguments) := by
  unfold describe
  exact only_fails_bind _ _ (workspace.facts_fail _ _) document_fails

end Workspace

namespace Validated

variable {Value Other : Type}

/-- The issues that keep a value from being one, where there are any. -/
def refusal? : Validated Value → Option (List Issue)
  | .ok _ => none
  | .error issues => some issues

theorem refusal_eq_some (value : Validated Value) (issues : List Issue)
    (refused : value.refusal? = some issues) : value = .error issues := by
  cases value with
  | ok result => exact absurd refused nofun
  | error found => exact congrArg Except.error (Option.some.inj refused)

theorem refusal_eq_none (value : Validated Value) (taken : value.refusal? = none) :
    ∃ result, value = .ok result := by
  cases value with
  | ok result => exact ⟨result, rfl⟩
  | error found => exact absurd taken nofun

end Validated

namespace Tool

open Traced

/-- The issues of arguments that a tool does not take. -/
def refusal? (tool : Tool) (members : Members) : Option (List Issue) :=
  match tool with
  | .detect => (DetectArguments.read members).refusal?
  | .short => (ShortArguments.read members).refusal?
  | .write => (WriteArguments.read members).refusal?
  | .full => (FullArguments.read members).refusal?

theorem reading_refused {Value : Type} (workspace : Workspace) (tool : Tool)
    (issues : List Issue) (run : Value → Traced Failure String) :
    tool.reading workspace (.error issues) run =
      { traced := Traced.fail (.invalid tool.argumentsTitle issues)
        files := workspace.files } := by
  rfl

/-- Nothing is done with arguments that are refused. -/
theorem invoke_refused (workspace : Workspace) (tool : Tool) (members : Members)
    (issues : List Issue) (refused : tool.refusal? members = some issues) :
    tool.invoke workspace members =
      { traced := Traced.fail (.invalid tool.argumentsTitle issues)
        files := workspace.files } := by
  cases tool with
  | detect => rw [invoke, Validated.refusal_eq_some _ issues refused, reading_refused]
  | short => rw [invoke, Validated.refusal_eq_some _ issues refused, reading_refused]
  | full => rw [invoke, Validated.refusal_eq_some _ issues refused, reading_refused]
  | write =>
      rw [invoke, Validated.refusal_eq_some _ issues refused]
      rfl

theorem write_file_fails (workspace : Workspace) (directory : Path) (arguments : WriteArguments) :
    OnlyFails Failure.IsOfResult (workspace.writeFile directory arguments).traced := by
  unfold Workspace.writeFile
  split
  · exact only_fails_pure _
  · refine only_fails_bind _ _ (only_fails_except _ (fun _ => nofun) _) fun count => ?_
    exact only_fails_bind _ _ (only_fails_record _ _ _) fun _ => only_fails_pure _

/-- Arguments that are taken make an invocation fail for its result at most. -/
theorem invoke_fails (workspace : Workspace) (tool : Tool) (members : Members)
    (taken : tool.refusal? members = none) :
    OnlyFails Failure.IsOfResult (tool.invoke workspace members).traced := by
  cases tool with
  | detect =>
      obtain ⟨arguments, valid⟩ := Validated.refusal_eq_none _ taken
      rw [invoke, valid]
      exact workspace.detect_fails arguments
  | short =>
      obtain ⟨arguments, valid⟩ := Validated.refusal_eq_none _ taken
      rw [invoke, valid]
      exact only_fails_pure _
  | full =>
      obtain ⟨arguments, valid⟩ := Validated.refusal_eq_none _ taken
      rw [invoke, valid]
      exact workspace.describe_fails arguments
  | write =>
      obtain ⟨arguments, valid⟩ := Validated.refusal_eq_none _ taken
      rw [invoke, valid]
      exact write_file_fails workspace _ arguments

end Tool

end ReadmePress
