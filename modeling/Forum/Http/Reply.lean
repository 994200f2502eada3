import Forum.Error
import Forum.Http.Language

/-!
# Replies

Replies of the service are envelopes: a code, a reason, a message and data. The message depends on
the language of the request and is put in last.

* `Envelope`, `Envelope.success`; `ApiError`, `ApiError.envelope`, `ApiError.ofService`;
* `Response`, `Reply.localize`: what is sent.
-/

namespace Forum

/-- The uniform body of a reply. -/
structure Envelope where
  code : Nat
  reason : String
  data : Json

namespace Envelope

/-- The envelope with a message. -/
def toJson (e : Envelope) (msg : String) : Json :=
  .object [("code", .int e.code), ("reason", .text e.reason), ("msg", .text msg), ("data", e.data)]

/-- The status of the reply: the code, if it is a status at all. -/
def status (e : Envelope) : Nat := if 100 ≤ e.code ∧ e.code ≤ 999 then e.code else 500

/-- The envelope of a request that succeeded. -/
def success (data : Json) : Envelope := ⟨200, "base.success", data⟩

open Json Decoder in
/-- The reading of an envelope, with its message. -/
def record : Record (Envelope × String) :=
  (Record.ofFunction fun c r m d => (Envelope.mk (Int.toNat c) r d, m))
    |>.required "code" (int .nat16) |>.required "reason" string |>.required "msg" string
    |>.required "data" any

end Envelope

/-- Why a request is refused. -/
inductive ApiError where
  | rankNotMet (required : Option Int)
  | forbidden (detail : String)
  | unauthorized (detail : String)
  | validation (detail : String)
  | notFound (detail : String)
  | internal (detail : String)
deriving DecidableEq, Repr

namespace ApiError

def message : ApiError → String
  | rankNotMet _ => "声望不足"
  | forbidden detail => "禁止访问: " ++ detail
  | unauthorized detail => "未授权: " ++ detail
  | validation detail => "参数验证失败: " ++ detail
  | notFound detail => "对象不存在: " ++ detail
  | internal detail => "内部错误: " ++ detail

def status : ApiError → Nat
  | rankNotMet _ | forbidden _ => 403
  | unauthorized _ => 401
  | validation _ | notFound _ => 400
  | internal _ => 500

def reason : ApiError → String
  | rankNotMet _ => "rank_fail_to_meet_the_condition"
  | forbidden _ => "base.forbidden"
  | unauthorized _ => "base.unauthorized_error"
  | validation _ => "base.request_format_error"
  | notFound _ => "base.object_not_found"
  | internal _ => "base.unknown"

/-- What a reply tells beyond the reason: the reputation that is needed, or what is wrong with the
request. -/
def data : ApiError → Json
  | rankNotMet required => .object [("requiredRank", (required.map .int).getD .null)]
  | validation detail => .object [("error", .text detail)]
  | _ => .null

def envelope (e : ApiError) : Envelope := ⟨e.status, e.reason, e.data⟩

/-- The refusal that a failure of the service leads to. -/
def ofService (e : ServiceError) : ApiError :=
  match e with
  | .userNotFound _ | .objectNotFound _ | .badgeNotFound _ | .invalidObjectId _ =>
    notFound e.message
  | .unknownAction _ | .validation _ => validation e.message
  | .database _ | .serialization _ | .infrastructure _ | .internal _ => internal e.message

end ApiError

/-- The body of a response. -/
inductive Body where
  | empty
  | json (v : Json)
  | text (s : String)

/-- What is sent. -/
structure Response where
  status : Nat
  contentType : Option String := none
  allow : Option String := none
  body : Body := .empty

/-- A reply before its language is known. -/
inductive Reply where
  | envelope (e : Envelope)
  | plain (r : Response)

/-- A reply with its message in a language; a reply without an envelope stays as it is. -/
def Reply.localize (l : Language) : Reply → Response
  | envelope e =>
    { status := e.status, contentType := some "application/json",
      body := .json (e.toJson (l.message e.reason)) }
  | plain r => r

end Forum
