import Forum.Http.Change
import Forum.Search.Service

/-!
# Routes and endpoints

* `Endpoint`, `Endpoint.handle`: what can be asked, and the data of the reply;
* `Route`, `Route.all`, `Route.ofPath?`: the paths with the methods they take; `{id}` stands for one
  part of a path.
-/

namespace Forum

/-- What can be asked. -/
inductive Endpoint where
  | health
  | permission
  | search
  | badges
  | awards
  | change (k : ChangeKind)
deriving DecidableEq, Repr

namespace Endpoint

open Handler

/-- A reading of the fields of a URL, or the refusal. -/
def ofQuery {α : Type} (f : Option α) : Except ApiError α :=
  match f with
  | some a => .ok a
  | none => .error (.validation queryMessage)

/-- Whether the caller may do each of some actions. -/
def permissions (c : Context) (r : Request) : Handler Json := do
  let q ← known (ofQuery r.form.permissionQuery?)
  let q ← known (checked PermissionQuery.faults q)
  let actions ← known (q.actions.mapError ApiError.ofService)
  let allowed ← ofFallible (Rank.checkEach c.userId actions q.object)
  return .object ((actions.map Action.name).zip (allowed.map .bool))

/-- The results of a search. -/
def results (c : Context) (r : Request) : Handler Json := do
  let q ← known (ofQuery r.form.searchRequest?)
  return (← ofFallible (Search.search q (c.caller.map (·.userId)))).toJson

/-- The badges that can be awarded. -/
def badgeList : Handler Json := do
  return .list ((← ofFallible (Service.call .activeBadges)).map Badge.toJson)

/-- The awards of a user, by default of the caller. -/
def awardList (c : Context) (r : Request) : Handler Json := do
  let user ← known do
    match (← ofQuery r.form.awardsQuery?).filter (· ≠ "") with
    | some id => return id
    | none => return (← c.requireUser).userId
  return .list ((← ofFallible (Service.call (.awardsOf user))).map Award.toJson)

/-- The state of the service itself. -/
def healthJson : Json := .object [("status", .text "ok"), ("service", .text "answer-server")]

/-- The reply of an endpoint before its language is known. -/
def handle (c : Context) (r : Request) (e : Endpoint) : Service Reply := do
  let data : Handler Json := match e with
    | health => return healthJson
    | permission => permissions c r
    | search => results c r
    | badges => badgeList
    | awards => awardList c r
    | change k => k.handle c r
  match e, ← data.run with
  | health, .ok v =>
    return .plain { status := 200, contentType := some "application/json", body := .json v }
  | _, .ok v => return .envelope (.success v)
  | _, .error err => return .envelope err.envelope

end Endpoint

/-- A path, and the endpoint of each method that it takes. -/
structure Route where
  path : String
  endpoints : List (String × (String → Endpoint))

namespace Route

/-- The name of the part that varies. -/
def hole : String := "\x7bid\x7d"

/-- A path of the service. -/
def api (path : String) (endpoints : List (String × (String → Endpoint))) : Route :=
  ⟨"/answer/api/v1" ++ path, endpoints⟩

/-- All routes. -/
def all : List Route :=
  [⟨"/health", [("GET", fun _ => .health)]⟩,
    api "/permission" [("GET", fun _ => .permission)],
    api "/search" [("GET", fun _ => .search)],
    api "/badges" [("GET", fun _ => .badges)],
    api "/badge/awards" [("GET", fun _ => .awards)],
    api "/question" [("POST", fun _ => .change .addQuestion)],
    api ("/question/" ++ hole)
      [("PUT", (.change <| .editQuestion ·)), ("DELETE", (.change <| .deleteQuestion ·))],
    api ("/question/" ++ hole ++ "/status") [("PUT", (.change <| .setStatus ·))],
    api ("/question/" ++ hole ++ "/pin") [("PUT", (.change <| .setPinned ·))],
    api "/answer" [("POST", fun _ => .change .addAnswer)],
    api ("/answer/" ++ hole)
      [("PUT", (.change <| .editAnswer ·)), ("DELETE", (.change <| .deleteAnswer ·))],
    api ("/answer/" ++ hole ++ "/accept") [("POST", (.change <| .acceptAnswer ·))],
    api "/comment" [("POST", fun _ => .change .addComment)],
    api ("/comment/" ++ hole) [("DELETE", (.change <| .deleteComment ·))],
    api "/report" [("POST", fun _ => .change .addReport)],
    api "/vote/up" [("POST", fun _ => .change (.vote true))],
    api "/vote/down" [("POST", fun _ => .change (.vote false))]]

/-- The part of a path that stands for the hole, or the empty text if the route has no hole; none of
it if the path is another one. Only the last part of a path must not be empty. -/
def match? : List (List Char) → List (List Char) → Option (List Char)
  | [], [] => some []
  | t :: ts, p :: ps =>
    if t = hole.toList then
      if ts ≠ ps ∨ (p.isEmpty ∧ ts.isEmpty) then none else some p
    else if t = p then match? ts ps
    else none
  | _, _ => none

/-- The route of a path, with the part that stands for its hole. -/
def ofPath? (path : List Char) : Option (Route × List Char) :=
  all.findSome? fun r =>
    (match? (r.path.toList.splitOn '/') (path.splitOn '/')).map fun id => (r, id)

/-- The methods that a route takes, as they are listed in a refusal. -/
def allowed (r : Route) : String :=
  ",".intercalate (r.endpoints.map fun (m, _) => if m = "GET" then "GET,HEAD" else m)

/-- The endpoint of a method; `HEAD` asks for the head of what `GET` answers. -/
def endpoint? (r : Route) (method : String) : Option (String → Endpoint) :=
  r.endpoints.lookup (if method = "HEAD" then "GET" else method)

end Route

end Forum
