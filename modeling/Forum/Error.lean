import Forum.Json.Decoder

/-!
# Errors

* `StorageError`: what a database reports;
* `SystemError`: faults of what the service runs on;
* `ServiceError`: why a request to the service fails. The first six causes lie with the request.
-/

namespace Forum

/-- What a database reports. A column is named by its name in quotes or by its position. -/
inductive StorageError where
  | poolClosed
  | poolTimedOut
  | rowNotFound
  | server (code message : String)
  | columnDecode (column : String)
  | columnNotFound (name : String)
  | columnIndex (position : Nat)
  | configuration
  | other
deriving DecidableEq, Repr

/-- The wording of a database error. -/
def StorageError.message : StorageError → String
  | poolClosed => "attempted to acquire a connection on a closed pool"
  | poolTimedOut => "pool timed out while waiting for an open connection"
  | rowNotFound => "no rows returned by a query that expected to return at least one row"
  | server _ message => "error returned from database: " ++ message
  | columnDecode column => "error occurred while decoding column " ++ column
  | columnNotFound name => "no column found for name: " ++ name
  | columnIndex position => "ColumnIndexOutOfBounds: index " ++ position.repr
  | configuration => "error with configuration"
  | other => "database protocol error"

/-- A fault of what the service runs on. -/
inductive SystemError where
  | database (e : StorageError)
  | redis (detail : String)
  | config (detail : String)
  | queueClosed
  | handler (name message : String)
  | internal (detail : String)
deriving DecidableEq, Repr

namespace SystemError

def message : SystemError → String
  | database e => "数据库错误: " ++ e.message
  | redis detail => "Redis 错误: " ++ detail
  | config detail => "配置错误: " ++ detail
  | queueClosed => "事件队列已关闭"
  | handler name message => "事件处理失败: " ++ name ++ " - " ++ message
  | internal detail => "内部错误: " ++ detail

def code : SystemError → String
  | database _ => "DATABASE_ERROR"
  | redis _ => "REDIS_ERROR"
  | config _ => "CONFIG_ERROR"
  | queueClosed => "QUEUE_CLOSED"
  | handler _ _ => "HANDLER_ERROR"
  | internal _ => "INTERNAL_ERROR"

/-- Could the same attempt succeed later? -/
def isRetryable : SystemError → Bool
  | database _ | redis _ => true
  | _ => false

end SystemError

/-- Why a request to the service fails. -/
inductive ServiceError where
  | userNotFound (id : String)
  | objectNotFound (id : String)
  | badgeNotFound (id : Int)
  | invalidObjectId (id : String)
  | unknownAction (name : String)
  | validation (detail : String)
  | database (e : StorageError)
  | serialization (detail : String)
  | infrastructure (e : SystemError)
  | internal (detail : String)
deriving DecidableEq, Repr

namespace ServiceError

def message : ServiceError → String
  | userNotFound id => "用户不存在: " ++ id
  | objectNotFound id => "对象不存在: " ++ id
  | badgeNotFound id => "徽章不存在: " ++ id.repr
  | invalidObjectId id => "无法识别的对象 ID: " ++ id
  | unknownAction name => "未知的操作: " ++ name
  | validation detail => "参数校验失败: " ++ detail
  | database e => "数据库错误: " ++ e.message
  | serialization detail => "JSON 序列化错误: " ++ detail
  | infrastructure e => e.message
  | internal detail => "内部错误: " ++ detail

def code : ServiceError → String
  | userNotFound _ => "USER_NOT_FOUND"
  | objectNotFound _ => "OBJECT_NOT_FOUND"
  | badgeNotFound _ => "BADGE_NOT_FOUND"
  | invalidObjectId _ => "INVALID_OBJECT_ID"
  | unknownAction _ => "UNKNOWN_ACTION"
  | validation _ => "VALIDATION_ERROR"
  | database _ => "DATABASE_ERROR"
  | serialization _ => "SERIALIZATION_ERROR"
  | infrastructure e => e.code
  | internal _ => "INTERNAL_ERROR"

/-- The key of the message that a user is shown. -/
def reason : ServiceError → String
  | userNotFound _ => "user.not_found"
  | objectNotFound _ | invalidObjectId _ => "base.object_not_found"
  | badgeNotFound _ => "badge.object_not_found"
  | unknownAction _ | validation _ => "base.request_format_error"
  | database _ | serialization _ | infrastructure _ | internal _ => "base.unknown"

/-- Could the same request succeed later? -/
def isRetryable : ServiceError → Bool
  | database _ => true
  | infrastructure e => e.isRetryable
  | _ => false

/-- Does the cause lie with the request, and not with the system? -/
def isBusiness : ServiceError → Bool
  | userNotFound _ | objectNotFound _ | badgeNotFound _ | invalidObjectId _ | unknownAction _
  | validation _ => true
  | database _ | serialization _ | infrastructure _ | internal _ => false

end ServiceError

end Forum
