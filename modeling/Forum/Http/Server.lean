import Forum.Http.Endpoint
import Forum.Token

/-!
# The server

* `Server.authenticate`: who asks; a request without a token is anonymous, one with a bad token is
  refused whatever it asks;
* `Server.respond`: the response to a request, as a program of the service;
* `Request.requestId?`: the mark of a request that its response repeats.
-/

namespace Forum

/-- The languages that a request asks for. -/
def Request.language (r : Request) : Language :=
  match r.headerText? "accept-language" with
  | some s => .ofAcceptLanguage s
  | none => .english

/-- The mark of a request. -/
def Request.requestId? (r : Request) : Option String :=
  ((r.headerText? "x-request-id").filter (!·.isEmpty)).map String.ofList

/-- A server: the key of its tokens. -/
structure Server where
  key : TokenKey
deriving DecidableEq, Repr

namespace Server

/-- What a refusal says of a token. -/
def refusal (e : TokenError) : ApiError := .unauthorized e.message

/-- What stands before a token in a header. -/
def scheme : List Char := "Bearer ".toList

/-- Who asks. A header that is no plain text counts as none. -/
def authenticate (s : Server) (now : Int) (r : Request) : Except ApiError (Option Caller) :=
  match r.headerText? "authorization" with
  | none => .ok none
  | some value =>
    if scheme.isPrefixOf value then
      match s.key.verify now (String.ofList (Text.trim (value.drop scheme.length))) with
      | .ok c => .ok (some ⟨c.sub, c.username⟩)
      | .error e => .error (refusal e)
    else .error (.unauthorized "Authorization 头格式错误")

/-- The reply to a path that cannot be read. -/
def badPath : Response :=
  { status := 400, contentType := some "text/plain; charset=utf-8",
    body := .text "Invalid URL: Invalid UTF-8 in \x60id\x60" }

/-- The reply to a request of a known caller. -/
def reply (c : Context) (r : Request) : Service Reply :=
  match Route.ofPath? r.path with
  | none => return .plain { status := 404 }
  | some (route, part) =>
    match route.endpoint? r.method with
    | none => return .plain { status := 405, allow := some route.allowed }
    | some endpoint =>
      match Text.Utf8.decode? (Text.Percent.decode part) with
      | none => return .plain badPath
      | some id => (endpoint (String.ofList id)).handle c r

/-- The path that a request is counted under: its route, or else the path itself. -/
def pathLabel (r : Request) : String :=
  match Route.ofPath? r.path with
  | some (route, _) => route.path
  | none => String.ofList r.path

/-- A response to `HEAD` has no body. -/
def withoutBody (method : String) (r : Response) : Response :=
  if method = "HEAD" then { r with body := .empty } else r

/-- The response to a request. -/
def respond (s : Server) (now : Int) (r : Request) : Service Response := do
  let reply ← match s.authenticate now r with
    | .error e => pure (.envelope e.envelope)
    | .ok caller => reply ⟨caller, r.language⟩ r
  let response := withoutBody r.method (reply.localize r.language)
  Service.count (.httpRequest r.method (pathLabel r) response.status)
  return response

end Server

end Forum
