import Forum.Service
import Forum.Sql.Search

/-!
# Statements

All statements that the database is sent, by what they do.

* `Post`: the objects with votes, each kind in a table of its own;
* `Statement`, `Statement.text`, `Statement.params`: a statement, its text, and the values of its
  parameters `$1`, `$2`, ….
-/

namespace Forum

/-- The kinds of objects that are posted and voted on. -/
inductive Post where
  | question
  | answer
  | comment
deriving DecidableEq, Repr

namespace Post

/-- The table of a kind. -/
def table : Post → String
  | question => "question"
  | answer => "answer"
  | comment => "comment"

/-- The kind as a kind of object. -/
def kind : Post → ObjectKind
  | question => .question
  | answer => .answer
  | comment => .comment

/-- The kind of object as a kind of post, if it is one. -/
def ofKind? : ObjectKind → Option Post
  | .question => some question
  | .answer => some answer
  | .comment => some comment
  | .tag | .user => none

end Post

namespace Sql

/-- A statement. -/
inductive Statement where
  | ping
  | nextId (p : Post)
  | insertQuestion (id : String) (q : NewQuestion)
  | editQuestion (id title content : String)
  | setQuestionStatus (id : String) (status : QuestionStatus)
  | setQuestionPinned (id : String) (pinned : Bool)
  | countAnswer (questionId : String)
  | insertAnswer (id : String) (a : NewAnswer)
  | editAnswer (id content : String)
  | removeAnswer (id : String)
  | uncountAnswer (questionId answerId : String)
  | clearAccepted (questionId : String)
  | markAccepted (answerId questionId : String)
  | setAccepted (questionId answerId : String)
  | insertComment (id : String) (c : NewComment)
  | removeComment (id : String)
  | insertReport (r : NewReport)
  | lockVote (userId objectId : String)
  | deleteVote (userId objectId : String)
  | putVote (userId objectId : String) (kind : ObjectKind) (vote : Int)
  | addToVotes (p : Post) (delta : Int) (objectId : String)
  | userById (id : String)
  | userByName (name : String)
  | question (id : String)
  | answer (id : String)
  | comment (id : String)
  | tag (id : String)
  | user (id : String)
  | badge (id : Int)
  | activeBadges
  | badgesOfHandlers (handlers : List String)
  | hasBadge (userId : String) (badgeId : Int)
  | hasAward (userId : String) (badgeId : Int) (key : String)
  | insertAward (g : Grant)
  | countAward (badgeId : Int)
  | awardsOf (userId : String)
  | voteCount (p : Post) (objectId : String)
  | acceptedCount (userId : String)
  | insertNotification (n : NewNotification)
  | setting (key : String)
  | countMatches (f : SearchFilter)
  | pageOfMatches (f : SearchFilter) (order : SearchOrder) (size offset : Int)

namespace Statement

/-- The columns of a badge. -/
def badgeColumns : String :=
  "SELECT id, name, icon, description, level, award_type, handler, param, status, award_count, " ++
    "created_at, updated_at FROM badge"

/-- The columns of a user. -/
def userColumns : String := "SELECT id, username, display_name, rank, is_admin, status FROM users"

/-- A change of a row that is not deleted. -/
def updateLive (table assignments : String) : String :=
  "UPDATE " ++ table ++ " SET " ++ assignments ++
    ", updated_at = NOW() WHERE id = $1 AND status <> 'deleted'"

/-- The text of a statement. -/
def text : Statement → String
  | ping => "SELECT 1"
  | nextId p => "SELECT nextval('" ++ p.table ++ "_seq')"
  | insertQuestion _ _ =>
    "INSERT INTO question (id, user_id, title, original_text) VALUES ($1, $2, $3, $4)"
  | editQuestion _ _ _ => updateLive "question" "title = $2, original_text = $3"
  | setQuestionStatus _ _ => updateLive "question" "status = $2"
  | setQuestionPinned _ _ => updateLive "question" "pinned = $2"
  | countAnswer _ => updateLive "question" "answer_count = answer_count + 1"
  | insertAnswer _ _ =>
    "INSERT INTO answer (id, question_id, user_id, original_text) VALUES ($1, $2, $3, $4)"
  | editAnswer _ _ => updateLive "answer" "original_text = $2"
  | removeAnswer _ =>
    updateLive "answer" "status = 'deleted', accepted = FALSE" ++ " RETURNING question_id"
  | uncountAnswer _ _ =>
    "UPDATE question SET answer_count = GREATEST(answer_count - 1, 0), " ++
      "accepted_answer_id = CASE WHEN accepted_answer_id = $2 THEN NULL " ++
      "ELSE accepted_answer_id END, updated_at = NOW() WHERE id = $1"
  | clearAccepted _ => "UPDATE answer SET accepted = FALSE WHERE question_id = $1 AND accepted"
  | markAccepted _ _ =>
    "UPDATE answer SET accepted = TRUE, updated_at = NOW() " ++
      "WHERE id = $1 AND question_id = $2 AND status <> 'deleted'"
  | setAccepted _ _ =>
    "UPDATE question SET accepted_answer_id = $2, updated_at = NOW() WHERE id = $1"
  | insertComment _ _ =>
    "INSERT INTO comment (id, user_id, object_id, question_id, original_text) " ++
      "VALUES ($1, $2, $3, $4, $5)"
  | removeComment _ => updateLive "comment" "status = 'deleted'"
  | insertReport _ =>
    "INSERT INTO report (user_id, object_id, object_type, reason) VALUES ($1, $2, $3, $4) " ++
      "RETURNING id"
  | lockVote _ _ => "SELECT vote FROM vote WHERE user_id = $1 AND object_id = $2 FOR UPDATE"
  | deleteVote _ _ => "DELETE FROM vote WHERE user_id = $1 AND object_id = $2"
  | putVote _ _ _ _ =>
    "INSERT INTO vote (user_id, object_id, object_type, vote) VALUES ($1, $2, $3, $4) " ++
      "ON CONFLICT (user_id, object_id) DO UPDATE SET vote = EXCLUDED.vote, updated_at = NOW()"
  | addToVotes p _ _ =>
    "UPDATE " ++ p.table ++
      " SET vote_count = vote_count + $1 WHERE id = $2 RETURNING vote_count"
  | userById _ => userColumns ++ " WHERE id = $1"
  | userByName _ => userColumns ++ " WHERE username = $1"
  | question _ => "SELECT id, user_id FROM question WHERE id = $1 AND status <> 'deleted'"
  | answer _ => "SELECT id, user_id, question_id FROM answer WHERE id = $1 AND status <> 'deleted'"
  | comment _ =>
    "SELECT id, user_id, object_id, question_id FROM comment " ++
      "WHERE id = $1 AND status <> 'deleted'"
  | tag _ => "SELECT id FROM tag WHERE id = $1"
  | user _ => "SELECT id FROM users WHERE id = $1"
  | badge _ => badgeColumns ++ " WHERE id = $1"
  | activeBadges => badgeColumns ++ " WHERE status = $1 ORDER BY id ASC"
  | badgesOfHandlers _ =>
    badgeColumns ++ " WHERE status = $1 AND handler = ANY($2) ORDER BY id ASC"
  | hasBadge _ _ =>
    "SELECT EXISTS(SELECT 1 FROM badge_award WHERE user_id = $1 AND badge_id = $2)"
  | hasAward _ _ _ =>
    "SELECT EXISTS( SELECT 1 FROM badge_award " ++
      "WHERE user_id = $1 AND badge_id = $2 AND award_key = $3 )"
  | insertAward _ =>
    "INSERT INTO badge_award (user_id, badge_id, award_key) VALUES ($1, $2, $3) RETURNING id"
  | countAward _ =>
    "UPDATE badge SET award_count = award_count + 1, updated_at = NOW() WHERE id = $1"
  | awardsOf _ =>
    "SELECT id, user_id, badge_id, award_key, created_at FROM badge_award WHERE user_id = $1 " ++
      "ORDER BY created_at DESC, id DESC"
  | voteCount p _ => "SELECT vote_count FROM " ++ p.table ++ " WHERE id = $1"
  | acceptedCount _ =>
    "SELECT COUNT(*) FROM answer WHERE user_id = $1 AND accepted AND status <> 'deleted'"
  | insertNotification _ =>
    "INSERT INTO notification (user_id, trigger_user_id, object_id, notification_type) " ++
      "VALUES ($1, $2, $3, $4) RETURNING id"
  | setting _ => "SELECT value FROM config WHERE key = $1"
  | countMatches f => Fragment.text (Sql.countMatches f)
  | pageOfMatches f o s n => Fragment.text (Sql.pageOfMatches f o s n)

/-- The values of the parameters. -/
def params : Statement → List Value
  | ping | nextId _ => []
  | insertQuestion id q => [.text id, .text q.userId, .text q.title, .text q.content]
  | editQuestion id t c => [.text id, .text t, .text c]
  | setQuestionStatus id s => [.text id, .text s.name]
  | setQuestionPinned id p => [.text id, .bool p]
  | insertAnswer id a => [.text id, .text a.questionId, .text a.userId, .text a.content]
  | editAnswer id c => [.text id, .text c]
  | uncountAnswer q a | setAccepted q a => [.text q, .text a]
  | markAccepted a q => [.text a, .text q]
  | insertComment id c =>
    [.text id, .text c.userId, .text c.objectId, .text c.questionId, .text c.content]
  | insertReport r => [.text r.userId, .text r.objectId, .text r.kind.name, .text r.reason]
  | lockVote u o | deleteVote u o => [.text u, .text o]
  | putVote u o k v => [.text u, .text o, .text k.name, .int .int16 v]
  | addToVotes _ d o => [.int64 d, .text o]
  | countAnswer id | removeAnswer id | clearAccepted id | removeComment id | userById id
  | userByName id | question id | answer id | comment id | tag id | user id | awardsOf id
  | voteCount _ id | acceptedCount id | setting id => [.text id]
  | badge id | countAward id => [.int64 id]
  | activeBadges => [.text BadgeStatus.active.name]
  | badgesOfHandlers hs => [.text BadgeStatus.active.name, .texts hs]
  | hasBadge u b => [.text u, .int64 b]
  | hasAward u b k => [.text u, .int64 b, .text k]
  | insertAward g => [.text g.userId, .int64 g.badgeId, .text g.key]
  | insertNotification n =>
    [.text n.userId, .text n.triggerUserId, .text n.objectId, .text n.kind.name]
  | countMatches f => Fragment.params (Sql.countMatches f)
  | pageOfMatches f o s n => Fragment.params (Sql.pageOfMatches f o s n)

end Statement

end Sql

end Forum
