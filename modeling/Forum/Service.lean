import Forum.Badge.Basic
import Forum.Content
import Forum.Error
import Forum.Metric
import Forum.Notification
import Forum.Program
import Forum.Search.Filter
import Forum.User

/-!
# The service and what it runs on

The rules of the service are programs over a few operations: calls of the repositories, the counting
of metrics, and the offering of events.

* `Write`: the calls that change questions, answers and comments;
* `Call`: all repository calls, each with the type of its answer;
* `Effect`, `Service`: programs of the service;
* `Service.call`, `count`, `offer`.
-/

namespace Forum

/-- A change of questions, answers and comments. -/
inductive Write where
  | createQuestion (q : NewQuestion)
  | updateQuestion (id title content : String)
  | createAnswer (a : NewAnswer)
  | updateAnswer (id content : String)
  | createComment (c : NewComment)
  | addReport (r : NewReport)
  | deleteQuestion (id : String)
  | updateQuestionStatus (id : String) (status : QuestionStatus)
  | setQuestionPinned (id : String) (pinned : Bool)
  | deleteAnswer (id : String)
  | acceptAnswer (questionId answerId : String)
  | deleteComment (id : String)
  | recordVote (userId : String) (object : ObjectInfo) (up : Bool)

/-- What a change answers: the id of a new object, the number of a report, the outcome of a vote. -/
abbrev Write.Reply : Write → Type
  | createQuestion _ | createAnswer _ | createComment _ => String
  | addReport _ => Int
  | recordVote _ _ _ => VoteResult
  | _ => Unit

/-- A call of a repository. -/
inductive Call where
  | getInt (key : String)
  | userById (id : String)
  | userByName (name : String)
  | objectInfo (id : String)
  | write (w : Write)
  | getBadge (id : Int)
  | activeBadges
  | badgesOfHandlers (handlers : List String)
  | hasBadge (userId : String) (badgeId : Int)
  | hasAward (userId : String) (badgeId : Int) (key : String)
  | addAward (g : Grant)
  | awardsOf (userId : String)
  | voteCount (objectId : String)
  | acceptedCount (userId : String)
  | addNotification (n : NewNotification)
  | search (filter : SearchFilter) (page size : Int) (order : SearchOrder)

/-- What a call answers when it does not fail. -/
abbrev Call.Reply : Call → Type
  | getInt _ => Option Int
  | userById _ | userByName _ => Option User
  | objectInfo _ => ObjectInfo
  | write w => w.Reply
  | getBadge _ => Option Badge
  | activeBadges | badgesOfHandlers _ => List Badge
  | hasBadge _ _ | hasAward _ _ _ => Bool
  | addAward _ | addNotification _ => Int
  | awardsOf _ => List Award
  | voteCount _ | acceptedCount _ => Int
  | search _ _ _ _ => List SearchItem × Int

/-- An operation of the service. -/
inductive Effect where
  | call (c : Call)
  | count (m : Metric)
  | offer (e : Event)

/-- What an operation answers; the offer of an event tells whether it was accepted. -/
abbrev Effect.Answer : Effect → Type
  | call c => Except ServiceError c.Reply
  | count _ => Unit
  | offer _ => Bool

/-- A program of the service. -/
abbrev Service := Program Effect Effect.Answer

/-- A program of the service that may fail. -/
abbrev Fallible := ExceptT ServiceError Service

namespace Service

/-- A call of a repository, with its failure as a value. -/
def attempt (c : Call) : Service (Except ServiceError c.Reply) := .perform (Effect.call c)

/-- A call of a repository; a failure ends the program. -/
def call (c : Call) : Fallible c.Reply := ExceptT.mk (attempt c)

/-- A change of questions, answers and comments. -/
def write (w : Write) : Fallible w.Reply := call (.write w)

/-- One more of a metric. -/
def count (m : Metric) : Service Unit := .perform (Effect.count m)

/-- An event for those who react to it. -/
def offer (e : Event) : Service Bool := .perform (Effect.offer e)

end Service

end Forum
