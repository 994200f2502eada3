import Forum.Http.Request
import Forum.Rank

/-!
# Steps of a request

* `Caller`, `Context`: who asks, and in which language;
* `Handler`: a program of the service that may refuse the request;
* `Handler.checked`, `Context.requireUser`, `Handler.loadObject`, `Handler.permit`: the steps that a
  request passes before anything is done.
-/

namespace Forum

/-- The user of an accepted token. -/
structure Caller where
  userId : String
  username : String
deriving DecidableEq, Repr

/-- Who asks, and in which language. -/
structure Context where
  caller : Option Caller
  language : Language
deriving DecidableEq, Repr

/-- A program of the service that may refuse the request. -/
abbrev Handler := ExceptT ApiError Service

/-- The caller's id, or the empty text. -/
def Context.userId (c : Context) : String := (c.caller.map (·.userId)).getD ""

/-- The caller, or the refusal of an anonymous request. -/
def Context.requireUser (c : Context) : Except ApiError Caller :=
  match c.caller with
  | some u => .ok u
  | none => .error (.unauthorized "需要登录")

namespace Handler

/-- A program whose failures become refusals. -/
def ofFallible {α : Type} (p : Fallible α) : Handler α :=
  ExceptT.mk do return (← p.run).mapError ApiError.ofService

/-- A result that is known without asking the service. -/
def known {α : Type} (r : Except ApiError α) : Handler α := ExceptT.mk (pure r)

/-- An input that keeps the limits on lengths. -/
def checked {α : Type} (faults : α → List LengthFault) (a : α) : Except ApiError α :=
  match faults a with
  | [] => .ok a
  | fs => .error (.validation (LengthRule.text fs))

/-- The object of an id that must be of a kind. -/
def loadObject (id : String) (kind : ObjectKind) : Handler ObjectInfo :=
  if ObjectKind.ofObjectId? id = some kind then ofFallible (Service.call (.objectInfo id))
  else throw (.notFound (id ++ " 不是" ++ kind.name))

/-- The user may do this to the object, or is told the reputation that is needed. -/
def permit (user : String) (action : Action) (object : String) : Handler Unit := do
  match ← ofFallible (Rank.checkAll user [action] object) with
  | [] => throw (.internal (action.name ++ " 没有判定结果"))
  | c :: _ => if c.allowed then return () else throw (.rankNotMet c.requiredRank)

end Handler

end Forum
