import ReadmePress.Json.Fault
import ReadmePress.Service.Exchange
import ReadmePress.Tools.Catalogue

/-!
The service: `/health` tells that it runs, `/tools` lists the tools, and `/tools/name` invokes
one with the members of the body as its arguments.
-/

namespace ReadmePress

open ReadmePress.Text

inductive Endpoint where
  | health
  | catalogue
  | invocation (name : List Char)
  deriving DecidableEq, Repr

namespace Endpoint

def ofPath? (path : List Char) : Option Endpoint :=
  if path = "/health".toList then some .health
  else if path = "/tools".toList then some .catalogue
  else if "/tools/".toList.isPrefixOf path then
    let name := path.drop "/tools/".length
    if name.isEmpty || name.contains '/' then none else some (.invocation name)
  else none

def verb : Endpoint → String
  | .health => "GET"
  | .catalogue => "GET"
  | .invocation _ => "POST"

/-- The path with a slash at its end taken off, or put there. -/
def otherPath (path : List Char) : List Char :=
  if path.getLast? = some '/' then (path.reverse.dropWhile (· == '/')).reverse
  else path ++ ['/']

end Endpoint

namespace Service

def issueReport (issue : Issue) : Json :=
  let step := fun
    | IssueStep.field name => Json.ofString name
    | IssueStep.index place => Json.integer place
  let context :=
    match issue.kind.context with
    | [] => []
    | members => [("ctx", Json.ofMembers members)]
  Json.ofMembers
    ([("type", Json.ofString issue.kind.name), ("loc", .array (issue.location.map step)),
      ("msg", Json.ofString issue.kind.message), ("input", issue.input)] ++ context)

/-- The response to issues, which fails where the input of one cannot be written. A text with
lone surrogates never can. -/
def issuesResponse (issues : List Issue) : HttpResponse :=
  if issues.any fun issue => issue.kind = .illFormedText then .internalError
  else .value 422 (Json.ofMembers [("detail", .array (issues.map issueReport))])

/-- The response to a body that is no JSON from some character on. -/
def syntaxResponse (index : Nat) (cause : Json.SyntaxCause) : HttpResponse :=
  .value 422
    (Json.ofMembers
      [("detail", .array
        [Json.ofMembers
          [("type", Json.ofString "json_invalid"),
            ("loc", .array [Json.ofString "body", .integer index]),
            ("msg", Json.ofString "JSON decode error"),
            ("input", .object []),
            ("ctx", Json.ofMembers [("error", Json.ofString cause.message)])]])])

/-- Reads the body of a request. A byte order mark before JSON is skipped, and a body that is
not said to be JSON is a text. -/
def readBody (request : HttpRequest) : Except HttpResponse Json :=
  if request.body.isEmpty then .ok .null
  else if !request.saysJson then .ok (.string (WideText.ofChars request.body))
  else
    let text :=
      if request.body.head? = some '\ufeff' then request.body.drop 1 else request.body
    match Json.parseWhole text with
    | .ok value => .ok value
    | .error (.malformed cause remaining) =>
        .error (syntaxResponse (Json.faultIndex text remaining) cause)
    | .error _ => .error (.detail 400 "There was an error parsing the body")

/-- The arguments that a body gives. No body gives none. -/
def readMembers (request : HttpRequest) : Except HttpResponse Members :=
  match readBody request with
  | .error response => .error response
  | .ok .null => .ok []
  | .ok (.object members) => .ok members
  | .ok value =>
      .error
        (issuesResponse
          [{ location := [.field "body"], kind := .notMapping, input := value }])

/-- The response to an invocation. -/
def textResponse (text : String) : HttpResponse :=
  .value 200
    (Json.ofMembers
      [("content", .array
        [Json.ofMembers [("type", Json.ofString "text"), ("text", Json.ofString text)]])])

/-- The response to an invocation that failed, and a record of a refusal of the file system. -/
def failureResponse (failure : Failure) : HttpResponse × List LogRecord :=
  match failure, failure.refusal? with
  | .invalid _ issues, _ => (issuesResponse issues, [])
  | _, some fault =>
      (.detail 500 fault.message,
        [{ level := .error
           source := WideText.ofString "service"
           message :=
             WideText.ofString ("Tool failed with filesystem error: " ++ fault.message) }])
  | _, none => (HttpResponse.internalError, [])

/-- Invokes a tool by name. The body is read before the name is looked up. -/
def invoke (workspace : Workspace) (name : List Char) (request : HttpRequest) : Exchange :=
  let unchanged := fun response =>
    { response := response, records := [], files := workspace.files }
  match readMembers request, Tool.ofName? (String.ofList name) with
  | .error response, _ => unchanged response
  | .ok _, none => unchanged (.detail 404 ("Unknown tool: " ++ String.ofList name))
  | .ok members, some tool =>
      let effect := tool.invoke workspace members
      let (response, records) :=
        match effect.traced.outcome with
        | .ok text => (textResponse text, [])
        | .error failure => failureResponse failure
      { response := response
        records := effect.traced.records ++ records
        files := effect.files }

def healthResponse : HttpResponse :=
  .value 200 (Json.ofMembers [("status", Json.ofString "ok")])

def catalogueResponse : HttpResponse :=
  .value 200 (Json.ofMembers [("tools", .array (Tool.all.map Tool.descriptor))])

/-- Answers a request. A path that only lacks or has too many slashes at its end is
redirected. -/
def answer (workspace : Workspace) (request : HttpRequest) : Exchange :=
  let unchanged := fun response =>
    { response := response, records := [], files := workspace.files }
  let path := request.plainPath
  match Endpoint.ofPath? path with
  | some endpoint =>
      if request.verb != endpoint.verb then unchanged (.detail 405 "Method Not Allowed")
      else match endpoint with
        | .health => unchanged healthResponse
        | .catalogue => unchanged catalogueResponse
        | .invocation name => invoke workspace name request
  | none =>
      if path != ['/'] && (Endpoint.ofPath? (Endpoint.otherPath path)).isSome then
        unchanged { status := 307, body := .text "" }
      else unchanged (.detail 404 "Not Found")

end Service

end ReadmePress
