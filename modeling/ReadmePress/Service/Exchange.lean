import ReadmePress.Json.Value
import ReadmePress.Log.Record
import ReadmePress.Text.Blank
import ReadmePress.Text.Lowercase
import ReadmePress.Text.Percent
import ReadmePress.Tools.Operation

/-!
Requests to the service and its responses.
-/

namespace ReadmePress

open ReadmePress.Text

structure HttpRequest where
  verb : String
  /-- The path as it is written, with escapes. -/
  path : String
  contentType : String
  body : List Char

namespace HttpRequest

/-- The path with its escapes read, without what follows a question mark or a number sign. -/
def plainPath (request : HttpRequest) : List Char :=
  let path := request.path.toList.takeWhile fun character => character != '?' && character != '#'
  decodeUtf8Lossy (percentBytes path)

/-- Whether the body is said to be JSON: `application/json`, or a kind of application data that
is JSON besides. -/
def saysJson (request : HttpRequest) : Bool :=
  let kind := lowercase (trim (request.contentType.toList.takeWhile (· != ';')))
  match kind.takeWhile (· != '/'), kind.dropWhile (· != '/') with
  | main, '/' :: sub =>
      main == "application".toList && !sub.contains '/'
        && (sub == "json".toList || "+json".toList.isSuffixOf sub)
  | _, _ => false

end HttpRequest

inductive ResponseBody where
  | json (value : Json)
  | text (value : String)

structure HttpResponse where
  status : Nat
  body : ResponseBody

namespace HttpResponse

/-- A response that only gives a reason. -/
def detail (status : Nat) (reason : String) : HttpResponse :=
  { status := status, body := .json (Json.ofMembers [("detail", Json.ofString reason)]) }

/-- The response to a request that failed in a way of its own. -/
def internalError : HttpResponse := { status := 500, body := .text "Internal Server Error" }

mutual

/-- Whether every number in a value has a form in JSON and every text is free of lone
surrogates. -/
def isExpressible : Json → Bool
  | .float (.finite _ _ _) => true
  | .float _ => false
  | .string text => text.toChars?.isSome
  | .array items => areExpressible items
  | .object members => membersExpressible members
  | _ => true

def areExpressible : List Json → Bool
  | [] => true
  | item :: items => isExpressible item && areExpressible items

def membersExpressible : List (WideText × Json) → Bool
  | [] => true
  | (name, value) :: members =>
      name.toChars?.isSome && isExpressible value && membersExpressible members

end

/-- A response with a value, which fails where the value cannot be written. -/
def value (status : Nat) (value : Json) : HttpResponse :=
  if isExpressible value then { status := status, body := .json value } else internalError

end HttpResponse

/-- What a request comes to: the response, the records and the tree of files after it. -/
structure Exchange where
  response : HttpResponse
  records : List LogRecord
  files : Node

end ReadmePress
