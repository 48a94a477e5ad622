import ReadmePress.Proofs.Facts.ManifestSummary
import ReadmePress.Proofs.Tools.IssueInputs
import ReadmePress.Service.Endpoints

/-!
The service as a way to invoke tools. Its response to a request says what the invocation comes to,
and leaves the files as the invocation does. Issues are told with their inputs, so they can only be
told where every input can be written in JSON; where one cannot, the response is that of a failure.
-/

namespace ReadmePress

open ReadmePress.Text

namespace HttpResponse

theorem string_is_expressible (text : String) : isExpressible (Json.ofString text) = true := by
  have plain := (WideText.toChars?_eq_some_iff (WideText.ofString text) text.toList).mpr rfl
  simp [Json.ofString, isExpressible, plain]

theorem items_expressible (items : List Json) :
    isExpressible (.array items) = items.all isExpressible := by
  rw [isExpressible]
  induction items with
  | nil => rfl
  | cons item rest induction => rw [areExpressible, induction, List.all_cons]

theorem members_expressible (entries : List (String × Json)) :
    isExpressible (Json.ofMembers entries) = entries.all fun entry => isExpressible entry.2 := by
  rw [Json.ofMembers, isExpressible]
  induction entries with
  | nil => rfl
  | cons entry rest induction =>
      have plain :=
        (WideText.toChars?_eq_some_iff (WideText.ofString entry.1) entry.1.toList).mpr rfl
      rw [List.map_cons, membersExpressible, induction, List.all_cons, plain]
      rfl

theorem ill_formed_is_not_expressible (value : Json) (illFormed : value.IsIllFormed) :
    isExpressible value = false := by
  obtain ⟨text, rfl, noCharacters⟩ := illFormed
  simp [isExpressible, noCharacters]

end HttpResponse

namespace Service

open HttpResponse

/-- The response that tells the text of a result. -/
def contentResponse (text : String) : HttpResponse :=
  { status := 200
    body := .json (Json.ofMembers
      [("content", .array
        [Json.ofMembers [("type", Json.ofString "text"), ("text", Json.ofString text)]])]) }

/-- The response that tells issues. -/
def refusalResponse (issues : List Issue) : HttpResponse :=
  { status := 422
    body := .json (Json.ofMembers [("detail", .array (issues.map issueReport))]) }

theorem text_response_eq (text : String) : textResponse text = contentResponse text := by
  rw [textResponse, value, if_pos]
  · rfl
  · simp [members_expressible, items_expressible, string_is_expressible]

/-- Whether an issue can be told depends on its input alone. -/
theorem report_expressible (issue : Issue) :
    isExpressible (issueReport issue) = isExpressible issue.input := by
  have steps (step : IssueStep → Json) (told : ∀ one, isExpressible (step one) = true) :
      isExpressible (.array (issue.location.map step)) = true := by
    rw [items_expressible, List.all_map, List.all_eq_true]
    exact fun one _ => told one
  simp only [issueReport, members_expressible, List.all_append, List.all_cons, List.all_nil,
    string_is_expressible, Bool.true_and, Bool.and_true]
  rw [steps]
  · cases issue.kind <;>
      simp [IssueKind.context, members_expressible, string_is_expressible, isExpressible]
  · rintro (name | place)
    · exact string_is_expressible name
    · rfl

/-- Every issue can be told. -/
def AllTold (issues : List Issue) : Prop := ∀ issue ∈ issues, isExpressible issue.input = true

instance (issues : List Issue) : Decidable (AllTold issues) :=
  inferInstanceAs (Decidable (∀ issue ∈ issues, _))

theorem reports_expressible_iff (issues : List Issue) :
    isExpressible (Json.ofMembers [("detail", .array (issues.map issueReport))]) = true ↔
      AllTold issues := by
  simp [members_expressible, items_expressible, report_expressible, AllTold]

/-- The response to arguments that are refused. -/
def refusedResponse (issues : List Issue) : HttpResponse :=
  if AllTold issues then refusalResponse issues else internalError

theorem issues_response_eq (issues : List Issue)
    (honest : ∀ issue ∈ issues, issue.IsHonest) :
    issuesResponse issues = refusedResponse issues := by
  rw [issuesResponse, refusedResponse]
  split
  next illFormed =>
    obtain ⟨issue, member, isIllFormed⟩ := List.any_eq_true.mp illFormed
    have notTold : ¬ AllTold issues := by
      intro allTold
      have told := allTold issue member
      rw [ill_formed_is_not_expressible _ (honest issue member (of_decide_eq_true isIllFormed))]
        at told
      exact absurd told nofun
    rw [if_neg notTold]
  next =>
    rw [value]
    simp only [reports_expressible_iff]
    rfl

/-- The response to an invocation whose arguments are taken. -/
def outcomeResponse (outcome : Except Failure String) : HttpResponse :=
  match outcome with
  | .ok text => contentResponse text
  | .error failure =>
      match failure.refusal? with
      | some fault => .detail 500 fault.message
      | none => internalError

theorem failure_response_eq (failure : Failure) (ofResult : failure.IsOfResult) :
    (failureResponse failure).1 = outcomeResponse (.error failure) := by
  cases failure with
  | invalid kind issues =>
      obtain ⟨text, illFormed⟩ := ofResult kind issues rfl
      rw [illFormed]
      rfl
  | file fault => cases fault <;> rfl
  | settings fault =>
      cases fault with
      | file fault => cases fault <;> rfl
      | _ => rfl
  | _ => rfl

theorem content_response_injective (text other : String)
    (same : contentResponse text = contentResponse other) : text = other := by
  simp only [contentResponse, Json.ofMembers, HttpResponse.mk.injEq, ResponseBody.json.injEq,
    Json.object.injEq, Json.array.injEq, Json.string.injEq, List.map_cons, List.map_nil,
    List.cons.injEq, Prod.mk.injEq, Json.ofString] at same
  exact of_string_injective text other (by simpa using same)

theorem detail_injective (status : Nat) (reason other : String)
    (same : detail status reason = detail status other) : reason = other := by
  simp only [detail, Json.ofMembers, HttpResponse.mk.injEq, ResponseBody.json.injEq,
    Json.object.injEq, Json.string.injEq, List.map_cons, List.map_nil, List.cons.injEq,
    Prod.mk.injEq, Json.ofString] at same
  exact of_string_injective reason other (by simpa using same)

theorem internal_error_is_no_detail (status : Nat) (reason : String) :
    internalError ≠ detail status reason := by
  intro same
  exact absurd (congrArg HttpResponse.body same) nofun

@[simp]
theorem content_status (text : String) : (contentResponse text).status = 200 := rfl

@[simp]
theorem refusal_status (issues : List Issue) : (refusalResponse issues).status = 422 := rfl

@[simp]
theorem detail_status (status : Nat) (reason : String) : (detail status reason).status = status :=
  rfl

theorem error_response_status (failure : Failure) :
    (outcomeResponse (.error failure)).status = 500 := by
  unfold outcomeResponse
  simp only
  split <;> rfl

theorem refused_response_status (issues : List Issue) :
    (refusedResponse issues).status = if AllTold issues then 422 else 500 := by
  unfold refusedResponse
  split <;> rfl

theorem refused_response_is_no_detail (issues : List Issue) (reason : String) :
    refusedResponse issues ≠ detail 500 reason := by
  unfold refusedResponse
  split
  next =>
    intro same
    exact absurd (congrArg HttpResponse.status same) (by simp)
  next => exact internal_error_is_no_detail 500 reason

theorem outcome_response_content_iff (outcome : Except Failure String) (text : String) :
    outcomeResponse outcome = contentResponse text ↔ outcome = .ok text := by
  cases outcome with
  | ok found =>
      constructor
      · exact fun same => congrArg Except.ok (content_response_injective found text same)
      · exact fun same => congrArg contentResponse (Except.ok.inj same)
  | error failure =>
      refine ⟨fun same => ?_, nofun⟩
      have status := congrArg HttpResponse.status same
      rw [error_response_status, content_status] at status
      exact absurd status (by decide)

theorem outcome_response_detail_iff (outcome : Except Failure String) (reason : String) :
    outcomeResponse outcome = .detail 500 reason ↔
      ∃ failure fault, outcome = .error failure ∧ failure.refusal? = some fault ∧
        reason = fault.message := by
  constructor
  · intro same
    cases outcome with
    | ok text =>
        have status := congrArg HttpResponse.status same
        exact absurd status (by simp [outcomeResponse])
    | error failure =>
        unfold outcomeResponse at same
        cases refusal : failure.refusal? with
        | none =>
            simp only [refusal] at same
            exact absurd same (internal_error_is_no_detail 500 reason)
        | some fault =>
            simp only [refusal] at same
            exact ⟨failure, fault, rfl, refusal, (detail_injective 500 _ _ same).symm⟩
  · rintro ⟨failure, fault, rfl, refusal, rfl⟩
    simp only [outcomeResponse, refusal]

end Service

/-- The request invokes a tool by a name with members as its arguments. -/
structure HttpRequest.Invokes (request : HttpRequest) (name : String) (members : Members) :
    Prop where
  verb : request.verb = "POST"
  path : Endpoint.ofPath? request.plainPath = some (.invocation name.toList)
  body : Service.readMembers request = .ok members

namespace Service

open HttpResponse

variable (workspace : Workspace) (request : HttpRequest) (name : String) (members : Members)

theorem answer_invokes (invokes : request.Invokes name members) :
    answer workspace request = invoke workspace name.toList request := by
  simp [answer, invokes.path, invokes.verb, Endpoint.verb]

theorem unknown_name_answer (invokes : request.Invokes name members)
    (unknown : Tool.ofName? name = none) :
    answer workspace request =
      { response := .detail 404 ("Unknown tool: " ++ name)
        records := []
        files := workspace.files } := by
  rw [answer_invokes workspace request name members invokes, invoke, invokes.body,
    String.ofList_toList, unknown]

theorem known_name_files (invokes : request.Invokes name members) (tool : Tool)
    (known : Tool.ofName? name = some tool) :
    (answer workspace request).files = (tool.invoke workspace members).files := by
  rw [answer_invokes workspace request name members invokes, invoke, invokes.body,
    String.ofList_toList, known]

theorem known_name_response (invokes : request.Invokes name members) (tool : Tool)
    (known : Tool.ofName? name = some tool) :
    (answer workspace request).response =
      match (tool.invoke workspace members).traced.outcome with
      | .ok text => textResponse text
      | .error failure => (failureResponse failure).1 := by
  rw [answer_invokes workspace request name members invokes, invoke, invokes.body,
    String.ofList_toList, known]
  simp only
  cases (tool.invoke workspace members).traced.outcome <;> rfl

theorem refused_response (invokes : request.Invokes name members) (tool : Tool)
    (known : Tool.ofName? name = some tool) (issues : List Issue)
    (refused : tool.refusal? members = some issues) :
    (answer workspace request).response = refusedResponse issues := by
  rw [known_name_response workspace request name members invokes tool known,
    tool.invoke_refused workspace members issues refused]
  exact issues_response_eq issues (tool.refusal_honest members issues refused)

theorem taken_response (invokes : request.Invokes name members) (tool : Tool)
    (known : Tool.ofName? name = some tool) (taken : tool.refusal? members = none) :
    (answer workspace request).response =
      outcomeResponse (tool.invoke workspace members).traced.outcome := by
  rw [known_name_response workspace request name members invokes tool known]
  cases outcome : (tool.invoke workspace members).traced.outcome with
  | ok text => exact text_response_eq text
  | error failure =>
      exact failure_response_eq failure (tool.invoke_fails workspace members taken failure outcome)

/-- The service tells what an invocation comes to, and leaves the files as it does: the text with
the status 200, the issues of refused arguments with 422, and with 500 the reason for which the
file system refused an operation. Issues that cannot be told are a failure of the service. -/
structure Conveys (tool : Tool) (exchange : Exchange) : Prop where
  files : exchange.files = (tool.invoke workspace members).files
  content : ∀ text, exchange.response = contentResponse text ↔
    (tool.invoke workspace members).traced.outcome = .ok text
  onlyContent : exchange.response.status = 200 →
    ∃ text, exchange.response = contentResponse text
  refusal : ∀ issues, tool.refusal? members = some issues →
    exchange.response = (if AllTold issues then refusalResponse issues else internalError) ∧
      exchange.files = workspace.files
  onlyRefusal : exchange.response.status = 422 → (tool.refusal? members).isSome = true
  failure : ∀ reason, exchange.response = .detail 500 reason ↔
    ∃ failure fault, (tool.invoke workspace members).traced.outcome = .error failure ∧
      failure.refusal? = some fault ∧ reason = fault.message

theorem refused_answer_conveys (invokes : request.Invokes name members) (tool : Tool)
    (known : Tool.ofName? name = some tool) (issues : List Issue)
    (refused : tool.refusal? members = some issues) :
    Conveys workspace members tool (answer workspace request) := by
  have files := known_name_files workspace request name members invokes tool known
  have response := refused_response workspace request name members invokes tool known issues refused
  have effect := tool.invoke_refused workspace members issues refused
  have notContent : (answer workspace request).response.status ≠ 200 := by
    rw [response, refused_response_status]
    split <;> decide
  constructor
  case files => exact files
  case content =>
    intro text
    constructor
    · intro told
      exact absurd (congrArg HttpResponse.status told) notContent
    · intro done
      rw [effect] at done
      exact absurd done nofun
  case onlyContent => exact fun status => absurd status notContent
  case refusal =>
    intro found same
    obtain rfl := Option.some.inj (refused.symm.trans same)
    exact ⟨response, by rw [files, effect]⟩
  case onlyRefusal =>
    intro _
    rw [refused]
    rfl
  case failure =>
    intro reason
    constructor
    · intro told
      exact absurd (response.symm.trans told) (refused_response_is_no_detail issues reason)
    · rintro ⟨failure, fault, failed, refusal, -⟩
      rw [effect] at failed
      obtain rfl := Except.error.inj failed
      exact absurd refusal nofun

theorem taken_answer_conveys (invokes : request.Invokes name members) (tool : Tool)
    (known : Tool.ofName? name = some tool) (taken : tool.refusal? members = none) :
    Conveys workspace members tool (answer workspace request) := by
  have response := taken_response workspace request name members invokes tool known taken
  have status (failure : Failure)
      (failed : (tool.invoke workspace members).traced.outcome = .error failure) :
      (answer workspace request).response.status = 500 := by
    rw [response, failed, error_response_status]
  have told (text : String)
      (done : (tool.invoke workspace members).traced.outcome = .ok text) :
      (answer workspace request).response = contentResponse text := by
    rw [response, done]
    rfl
  constructor
  case files => exact known_name_files workspace request name members invokes tool known
  case content =>
    intro text
    rw [response, outcome_response_content_iff]
  case onlyContent =>
    intro isContent
    cases outcome : (tool.invoke workspace members).traced.outcome with
    | ok text => exact ⟨text, told text outcome⟩
    | error failure => exact absurd ((status failure outcome).symm.trans isContent) (by decide)
  case refusal => exact fun issues refused => absurd (taken.symm.trans refused) nofun
  case onlyRefusal =>
    intro isRefusal
    cases outcome : (tool.invoke workspace members).traced.outcome with
    | ok text =>
        rw [told text outcome] at isRefusal
        exact absurd isRefusal (by simp)
    | error failure => exact absurd ((status failure outcome).symm.trans isRefusal) (by decide)
  case failure =>
    intro reason
    rw [response, outcome_response_detail_iff]

theorem answer_conveys (invokes : request.Invokes name members) (tool : Tool)
    (known : Tool.ofName? name = some tool) :
    Conveys workspace members tool (answer workspace request) := by
  cases refusal : tool.refusal? members with
  | some issues =>
      exact refused_answer_conveys workspace request name members invokes tool known issues refusal
  | none => exact taken_answer_conveys workspace request name members invokes tool known refusal

end Service

end ReadmePress
