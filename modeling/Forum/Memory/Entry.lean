import Forum.Service

/-!
# Calls in a log

* `Call.name`, `Call.args`: a call as it is logged;
* `Call.subject`: its first argument, by which a planned failure can name it.
-/

namespace Forum

/-- The name and the arguments of a change. -/
def Write.entry : Write → String × List Json
  | createQuestion q => ("create_question", [.text q.userId, .text q.title, .text q.content])
  | updateQuestion id t c => ("update_question", [.text id, .text t, .text c])
  | createAnswer a => ("create_answer", [.text a.questionId, .text a.userId, .text a.content])
  | updateAnswer id c => ("update_answer", [.text id, .text c])
  | createComment c =>
    ("create_comment", [.text c.objectId, .text c.userId, .text c.questionId, .text c.content])
  | addReport r =>
    ("add_report", [.text r.objectId, .text r.userId, .text r.kind.name, .text r.reason])
  | deleteQuestion id => ("delete_question", [.text id])
  | updateQuestionStatus id s => ("update_question_status", [.text id, .text s.name])
  | setQuestionPinned id p => ("set_question_pinned", [.text id, .bool p])
  | deleteAnswer id => ("delete_answer", [.text id])
  | acceptAnswer q a => ("accept_answer", [.text q, .text a])
  | deleteComment id => ("delete_comment", [.text id])
  | recordVote u o up => ("record_vote", [.text o.objectId, .text u, .bool up])

namespace Call

/-- The name and the arguments of a call. -/
def entry : Call → String × List Json
  | getInt k => ("get_int", [.text k])
  | userById id => ("get_user_basic_info_by_id", [.text id])
  | userByName n => ("get_user_by_username", [.text n])
  | objectInfo id => ("get_info", [.text id])
  | write w => w.entry
  | getBadge id => ("get_badge", [.int id])
  | activeBadges => ("list_active_badges", [])
  | badgesOfHandlers hs => ("list_active_by_handlers", [.list (hs.map .text)])
  | hasBadge u b => ("has_badge", [.int b, .text u])
  | hasAward u b k => ("is_awarded_with_key", [.int b, .text u, .text k])
  | addAward g => ("add_award", [.int g.badgeId, .text g.userId, .text g.key])
  | awardsOf u => ("list_user_awards", [.text u])
  | voteCount o => ("object_vote_count", [.text o])
  | acceptedCount u => ("accepted_answer_count", [.text u])
  | addNotification n =>
    ("add_notification",
      [.text n.userId, .text n.triggerUserId, .text n.objectId, .text n.kind.name])
  | search f page size order => ("search", [f.toJson, .int page, .int size, .text order.name])

def name (c : Call) : String := c.entry.1

def args (c : Call) : List Json := c.entry.2

/-- A call in a log: its name, then its arguments. -/
def toJson (c : Call) : Json := .list (.text c.name :: c.args)

/-- The text of the first argument, which is null if there is none. -/
def subject (c : Call) : String :=
  match c.args.headD .null with
  | .text s => s
  | v => v.toText

end Call

end Forum
