import Forum.Text.Blank
import Forum.Text.Letters

/-!
# Languages and messages

* `Language.ofAcceptLanguage`: the first language of a header that there are messages in;
* `Language.message`: the message of a reason, in English where the language has none, and the
  reason itself where there is none at all.
-/

namespace Forum

/-- The languages of messages. -/
inductive Language where
  | english
  | chinese
deriving DecidableEq, Repr

namespace Language

def name : Language → String
  | english => "en_US"
  | chinese => "zh_CN"

/-- The language that a tag starts with. -/
def ofTag? (tag : List Char) : Option Language :=
  let t := (Text.trim tag).map Text.lowerAscii
  if ['z', 'h'].isPrefixOf t then some chinese
  else if ['e', 'n'].isPrefixOf t then some english
  else none

/-- The first known language of an `Accept-Language` header, whatever the weights; English if there
is none. -/
def ofAcceptLanguage (s : List Char) : Language :=
  ((s.splitOn ',').findSome? fun part => ofTag? (part.takeWhile (· ≠ ';'))).getD english

/-- The messages of a language by their reasons. -/
def messages : Language → List (String × String)
  | english =>
    [("base.success", "Success."), ("base.unknown", "Sorry, an unknown error occurred."),
      ("base.forbidden", "Forbidden."), ("base.unauthorized_error", "Unauthorized."),
      ("base.request_format_error", "Request format is not valid."),
      ("base.object_not_found", "Object not found."), ("user.not_found", "User not found."),
      ("badge.object_not_found", "Badge not found."),
      ("rank_fail_to_meet_the_condition", "Reputation rank fail to meet the condition.")]
  | chinese =>
    [("base.success", "成功。"), ("base.unknown", "抱歉，发生了未知错误。"),
      ("base.forbidden", "禁止访问。"), ("base.unauthorized_error", "未登录或登录已失效。"),
      ("base.request_format_error", "请求格式错误。"), ("base.object_not_found", "对象不存在。"),
      ("user.not_found", "用户不存在。"), ("badge.object_not_found", "徽章不存在。"),
      ("rank_fail_to_meet_the_condition", "声望值不满足操作要求。")]

/-- The message of a reason. -/
def message (l : Language) (reason : String) : String :=
  ((l.messages.lookup reason) <|> (english.messages.lookup reason)).getD reason

end Language

end Forum
