import Forum.Instant
import Forum.Object

/-!
# Events

What a user did, as it is passed on to those who react to it.

* `EventType`, `Event`;
* `Event.onObject?`: the event of an act on an object;
* `Event.targetId?`, `Event.targetUser?`: the object that was acted on, and whose it is;
* `Event.Stamped`: an event with the time it happened.
-/

namespace Forum

/-- What happened. -/
inductive EventType where
  | questionCreate
  | questionUpdate
  | questionDelete
  | questionClose
  | questionReopen
  | questionPin
  | questionUnpin
  | answerCreate
  | answerUpdate
  | answerDelete
  | answerAccept
  | commentCreate
  | commentUpdate
  | commentDelete
  | voteUp
  | voteDown
  | reportCreate
deriving DecidableEq, Repr

namespace EventType

def all : List EventType :=
  [questionCreate, questionUpdate, questionDelete, questionClose, questionReopen, questionPin,
    questionUnpin, answerCreate, answerUpdate, answerDelete, answerAccept, commentCreate,
    commentUpdate, commentDelete, voteUp, voteDown, reportCreate]

def name : EventType → String
  | questionCreate => "question.create"
  | questionUpdate => "question.update"
  | questionDelete => "question.delete"
  | questionClose => "question.close"
  | questionReopen => "question.reopen"
  | questionPin => "question.pin"
  | questionUnpin => "question.unpin"
  | answerCreate => "answer.create"
  | answerUpdate => "answer.update"
  | answerDelete => "answer.delete"
  | answerAccept => "answer.accept"
  | commentCreate => "comment.create"
  | commentUpdate => "comment.update"
  | commentDelete => "comment.delete"
  | voteUp => "vote.up"
  | voteDown => "vote.down"
  | reportCreate => "report.create"

def ofName? (s : String) : Option EventType := all.find? (·.name = s)

def decoder : Json.Decoder EventType := Json.Decoder.choice ofName?

end EventType

/-- An event: who acted, and the question, answer and comment concerned, each with its creator as
far as it is known. -/
structure Event where
  type : EventType
  userId : String
  questionId : Option String := none
  questionUserId : Option String := none
  answerId : Option String := none
  answerUserId : Option String := none
  commentId : Option String := none
  commentUserId : Option String := none
deriving DecidableEq, Repr

namespace Event

/-- The event on a question. -/
def withQuestion (e : Event) (id : String) (owner : Option String) : Event :=
  { e with questionId := some id, questionUserId := owner }

/-- The event on an answer. -/
def withAnswer (e : Event) (id : String) (owner : Option String) : Event :=
  { e with answerId := some id, answerUserId := owner }

/-- The event on a comment. -/
def withComment (e : Event) (id : String) (owner : Option String) : Event :=
  { e with commentId := some id, commentUserId := owner }

/-- The event of an act on an object, with its creator and the question it belongs to; an act on a
tag or a user is no event. -/
def onObject? (type : EventType) (userId : String) (o : ObjectInfo) : Option Event :=
  let e : Event := { type, userId }
  let inQuestion := match o.questionId with
    | some q => e.withQuestion q none
    | none => e
  match o.kind with
  | .question => some (e.withQuestion o.objectId (some o.creator))
  | .answer => some (inQuestion.withAnswer o.objectId (some o.creator))
  | .comment => some (inQuestion.withComment o.objectId (some o.creator))
  | .tag | .user => none

/-- The object acted on: the comment, or else the answer, or else the question. -/
def targetId? (e : Event) : Option String := e.commentId <|> e.answerId <|> e.questionId

/-- The creator of the object acted on. -/
def targetUser? (e : Event) : Option String :=
  if e.commentId.isSome then e.commentUserId
  else if e.answerId.isSome then e.answerUserId
  else e.questionUserId

/-- The members of an event in JSON. -/
def jsonMembers (e : Event) : List (String × Json) :=
  [("eventType", .text e.type.name), ("userId", .text e.userId),
    ("questionId", .ofText? e.questionId), ("questionUserId", .ofText? e.questionUserId),
    ("answerId", .ofText? e.answerId), ("answerUserId", .ofText? e.answerUserId),
    ("commentId", .ofText? e.commentId), ("commentUserId", .ofText? e.commentUserId)]

def toJson (e : Event) : Json := .object e.jsonMembers

/-- An event and when it happened. -/
structure Stamped where
  event : Event
  createdAt : Instant
deriving DecidableEq, Repr

def Stamped.toJson (s : Stamped) : Json :=
  .object (s.event.jsonMembers ++ [("createdAt", s.createdAt.toJson)])

open Json Decoder in
/-- The fields of an event in JSON, without the time. -/
def fields {α : Type} (f : Event → α) : Record α :=
  (Record.ofFunction fun t u q qu a au c cu => f ⟨t, u, q, qu, a, au, c, cu⟩)
    |>.required "eventType" EventType.decoder |>.required "userId" string
    |>.optional "questionId" string |>.optional "questionUserId" string
    |>.optional "answerId" string |>.optional "answerUserId" string
    |>.optional "commentId" string |>.optional "commentUserId" string

def record : Json.Record Event := fields id

def Stamped.record : Json.Record Stamped :=
  (fields Stamped.mk).required "createdAt" Instant.decoder

end Event

end Forum
