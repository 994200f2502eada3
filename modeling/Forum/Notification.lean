import Forum.Event

/-!
# Notifications

* `NotificationKind`, `NewNotification`, `Notification`;
* `NewNotification.ofEvent?`: whom an event is told to. Nobody is told of an act of their own.
-/

namespace Forum

/-- Why a user is notified. -/
inductive NotificationKind where
  | answerTheQuestion
  | commentTheObject
  | acceptAnswer
  | badgeAward
deriving DecidableEq, Repr

namespace NotificationKind

def all : List NotificationKind := [answerTheQuestion, commentTheObject, acceptAnswer, badgeAward]

def name : NotificationKind → String
  | answerTheQuestion => "answer_the_question"
  | commentTheObject => "comment_the_object"
  | acceptAnswer => "accept_answer"
  | badgeAward => "badge_award"

def ofName? (s : String) : Option NotificationKind := all.find? (·.name = s)

def decoder : Json.Decoder NotificationKind := Json.Decoder.choice ofName?

end NotificationKind

/-- A notification to be stored: who gets it, who caused it, and about which object. -/
structure NewNotification where
  userId : String
  triggerUserId : String
  objectId : String
  kind : NotificationKind
deriving DecidableEq, Repr

namespace NewNotification

/-- What an event is told to somebody as: the receiver, the object and the kind. -/
def subject? (e : Event) : Option (String × String × NotificationKind) :=
  match e.type with
  | .answerCreate => do return (← e.questionUserId, ← e.answerId, .answerTheQuestion)
  | .commentCreate => do
    let receiver ← if e.answerId.isSome then e.answerUserId else e.questionUserId
    return (receiver, ← e.commentId, .commentTheObject)
  | .answerAccept => do return (← e.answerUserId, ← e.answerId, .acceptAnswer)
  | _ => none

/-- The notification that an event gives rise to. -/
def ofEvent? (e : Event) : Option NewNotification :=
  (subject? e).bind fun (receiver, object, kind) =>
    if receiver = "" ∨ receiver = e.userId then none
    else some ⟨receiver, e.userId, object, kind⟩

/-- The types of events that can give rise to a notification. -/
def concerns : EventType → Bool
  | .answerCreate | .commentCreate | .answerAccept => true
  | _ => false

def toJson (n : NewNotification) : Json :=
  .object [("userId", .text n.userId), ("triggerUserId", .text n.triggerUserId),
    ("objectId", .text n.objectId), ("notificationType", .text n.kind.name)]

open Json Decoder in
def record : Record NewNotification :=
  (Record.ofFunction NewNotification.mk).required "userId" string
    |>.required "triggerUserId" string |>.required "objectId" string
    |>.required "notificationType" NotificationKind.decoder

end NewNotification

/-- A stored notification. -/
structure Notification where
  id : Int
  content : NewNotification
  isRead : Bool
  createdAt : Instant
deriving DecidableEq, Repr

namespace Notification

def toJson (n : Notification) : Json :=
  .object (n.content.toJson.entries ++
    [("id", .int n.id), ("isRead", .bool n.isRead), ("createdAt", n.createdAt.toJson)])

open Json Decoder in
def record : Record Notification :=
  (Record.ofFunction fun id u t o k r c => Notification.mk id ⟨u, t, o, k⟩ r c)
    |>.required "id" (int .int64) |>.required "userId" string
    |>.required "triggerUserId" string |>.required "objectId" string
    |>.required "notificationType" NotificationKind.decoder
    |>.required "isRead" bool |>.required "createdAt" Instant.decoder

end Notification

end Forum
