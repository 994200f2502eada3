import Forum.Http.Handler

/-!
# Changes

What users ask to be changed. A change is first planned: all checks are made and nothing is written.
A planned change is one write, the event that tells of it, and the data of the reply.

* `ChangeKind`, `ChangeKind.read`: the changes that requests can ask for, and the reading of the
  request;
* `ChangeRequest.plan`: the change of a user's request, or why it is refused;
* `Change.carryOut`: the write, then the event.
-/

namespace Forum

/-- The changes that requests can ask for. -/
inductive ChangeKind where
  | addQuestion
  | editQuestion (id : String)
  | setStatus (id : String)
  | setPinned (id : String)
  | deleteQuestion (id : String)
  | addAnswer
  | editAnswer (id : String)
  | acceptAnswer (id : String)
  | deleteAnswer (id : String)
  | addComment
  | deleteComment (id : String)
  | addReport
  | vote (up : Bool)
deriving DecidableEq, Repr

/-- A request for a change whose body has been read. -/
inductive ChangeRequest where
  | addQuestion (i : QuestionInput)
  | editQuestion (id : String) (i : QuestionInput)
  | setStatus (id : String) (status : QuestionStatus)
  | setPinned (id : String) (pinned : Bool)
  | deleteQuestion (id : String)
  | addAnswer (i : AnswerInput)
  | editAnswer (id : String) (i : AnswerEdit)
  | acceptAnswer (id : String)
  | deleteAnswer (id : String)
  | addComment (i : CommentInput)
  | deleteComment (id : String)
  | addReport (i : ReportInput)
  | vote (i : VoteInput) (up : Bool)

/-- A body of a given type. -/
def Request.input {α : Type} (r : Request) (record : Json.Record α) : Except ApiError α :=
  match r.readBody record.decoder with
  | .ok a => .ok a
  | .error e => .error (.validation e.message)

/-- A body of a given type that keeps the limits on lengths. -/
def Request.checkedInput {α : Type} (r : Request) (record : Json.Record α)
    (faults : α → List LengthFault) : Except ApiError α := do
  Handler.checked faults (← r.input record)

/-- The request for a change; a deletion and an acceptance have no body. -/
def ChangeKind.read (r : Request) : ChangeKind → Except ApiError ChangeRequest
  | addQuestion => .addQuestion <$> r.checkedInput QuestionInput.record QuestionInput.faults
  | editQuestion id => .editQuestion id <$> r.checkedInput QuestionInput.record QuestionInput.faults
  | setStatus id => .setStatus id <$> r.input statusInput
  | setPinned id => .setPinned id <$> r.input pinInput
  | deleteQuestion id => .ok (.deleteQuestion id)
  | addAnswer => .addAnswer <$> r.checkedInput AnswerInput.record AnswerInput.faults
  | editAnswer id => .editAnswer id <$> r.checkedInput AnswerEdit.record AnswerEdit.faults
  | acceptAnswer id => .ok (.acceptAnswer id)
  | deleteAnswer id => .ok (.deleteAnswer id)
  | addComment => .addComment <$> r.checkedInput CommentInput.record CommentInput.faults
  | deleteComment id => .ok (.deleteComment id)
  | addReport => .addReport <$> r.checkedInput ReportInput.record ReportInput.faults
  | vote up => (.vote · up) <$> r.checkedInput VoteInput.record VoteInput.faults

/-- A change that may be made: the write, the event that tells of it, and the data of the reply. -/
structure Change where
  write : Write
  event : write.Reply → Option Event
  data : write.Reply → Json := fun _ => .null

namespace Change

/-- The write, then the event; whether the event is accepted makes no difference. -/
def carryOut (c : Change) : Handler Json := do
  let reply ← Handler.ofFallible (Service.write c.write)
  match c.event reply with
  | some e => let _ ← Service.offer e
  | none => pure ()
  return c.data reply

/-- The data of a reply on something new. -/
def created (id : String) : Json := .object [("id", .text id)]

/-- The event on a question of a given creator. -/
def onQuestion (type : EventType) (user id creator : String) : Option Event :=
  some (({ type, userId := user } : Event).withQuestion id (some creator))

end Change

namespace ChangeRequest

open Handler Change

/-- The question that something belongs to, or a refusal. -/
def questionOf (o : ObjectInfo) (id : String) : Handler String :=
  match o.questionId with
  | some q => return q
  | none => throw (.notFound ("回答 " ++ id ++ " 没有所属问题"))

/-- A change of a question by its id: the question is loaded, then the action permitted. -/
def planQuestion (user : String) (action : Action) (type : EventType) (id : String)
    (write : Write) : Handler Change := do
  let q ← loadObject id .question
  permit user action id
  return { write, event := fun _ => onQuestion type user id q.creator }

/-- A new status: only opening and closing. -/
def planStatus (user id : String) (status : QuestionStatus) : Handler Change :=
  match status with
  | .closed =>
    planQuestion user .questionClose .questionClose id (.updateQuestionStatus id .closed)
  | .open_ =>
    planQuestion user .questionReopen .questionReopen id (.updateQuestionStatus id .open_)
  | .deleted => throw (.validation "删除问题请使用 DELETE 接口")

/-- Pinning and unpinning. -/
def planPinned (user id : String) (pinned : Bool) : Handler Change :=
  if pinned then
    planQuestion user .questionPin .questionPin id (.setQuestionPinned id true)
  else
    planQuestion user .questionUnpin .questionUnpin id (.setQuestionPinned id false)

/-- An answer to a question that exists. -/
def planAnswer (user : String) (i : AnswerInput) : Handler Change := do
  let q ← loadObject i.questionId .question
  permit user .answerAdd ""
  return {
    write := .createAnswer ⟨i.questionId, user, i.content⟩
    event := fun id => (onQuestion .answerCreate user i.questionId q.creator).map
      (·.withAnswer id (some user))
    data := created }

/-- The acceptance of an answer is an act on its question. -/
def planAcceptance (user id : String) : Handler Change := do
  let a ← loadObject id .answer
  let questionId ← questionOf a id
  let q ← loadObject questionId .question
  permit user .answerAccept questionId
  return {
    write := .acceptAnswer questionId id
    event := fun _ => (onQuestion .answerAccept user questionId q.creator).map
      (·.withAnswer id (some a.creator)) }

/-- The removal of an answer. -/
def planAnswerDeletion (user id : String) : Handler Change := do
  let a ← loadObject id .answer
  permit user .answerDelete id
  let e : Event := { type := .answerDelete, userId := user, questionId := a.questionId }
  return { write := .deleteAnswer id, event := fun _ => some (e.withAnswer id (some a.creator)) }

/-- The removal of a comment. -/
def planCommentDeletion (user id : String) : Handler Change := do
  let c ← loadObject id .comment
  permit user .commentDelete id
  let e : Event := { type := .commentDelete, userId := user, questionId := c.questionId }
  return { write := .deleteComment id, event := fun _ => some (e.withComment id (some c.creator)) }

/-- What can be commented on: a question or an answer. -/
def loadCommentable (id : String) : Handler ObjectInfo :=
  match ObjectKind.ofObjectId? id with
  | some .question => loadObject id .question
  | some .answer => loadObject id .answer
  | _ => throw (.notFound (id ++ " 不可评论"))

/-- A comment on a question or an answer. -/
def planComment (user : String) (i : CommentInput) : Handler Change := do
  let o ← loadCommentable i.objectId
  let questionId ← if o.kind = .question then pure o.objectId else questionOf o o.objectId
  permit user .commentAdd ""
  return {
    write := .createComment ⟨user, i.objectId, questionId, i.content⟩
    event := fun id => (Event.onObject? .commentCreate user o).map (·.withComment id (some user))
    data := created }

/-- The kind of what can be reported: a question, an answer or a comment. -/
def reportable (id : String) : Handler ObjectKind :=
  match ObjectKind.ofObjectId? id with
  | some .question => return .question
  | some .answer => return .answer
  | some .comment => return .comment
  | _ => throw (.notFound (id ++ " 不可举报"))

/-- A report on a question, an answer or a comment. -/
def planReport (user : String) (i : ReportInput) : Handler Change := do
  let kind ← reportable i.objectId
  let o ← ofFallible (Service.call (.objectInfo i.objectId))
  permit user .reportAdd ""
  return {
    write := .addReport ⟨user, i.objectId, kind, i.reason⟩
    event := fun _ => Event.onObject? .reportCreate user o }

/-- A vote on an object of somebody else. A vote taken back is no event. -/
def planVote (user : String) (i : VoteInput) (up : Bool) : Handler Change := do
  let o ← ofFallible (Service.call (.objectInfo i.objectId))
  if o.isCreatedBy user then throw (.forbidden "不能给自己的内容投票")
  if !(← ofFallible (Rank.checkVote user o up)) then throw (.rankNotMet none)
  return {
    write := .recordVote user o up
    event := fun r =>
      if r.userVote = 0 then none else Event.onObject? (if up then .voteUp else .voteDown) user o
    data := VoteResult.toJson }

/-- The change of a user's request, or why it is refused. -/
def plan (user : String) : ChangeRequest → Handler Change
  | addQuestion i => do
    permit user .questionAdd ""
    return {
      write := .createQuestion ⟨user, i.title, i.content⟩
      event := fun id => onQuestion .questionCreate user id user
      data := created }
  | editQuestion id i =>
    planQuestion user .questionEdit .questionUpdate id (.updateQuestion id i.title i.content)
  | setStatus id s => planStatus user id s
  | setPinned id p => planPinned user id p
  | deleteQuestion id =>
    planQuestion user .questionDelete .questionDelete id (.deleteQuestion id)
  | addAnswer i => planAnswer user i
  | editAnswer id i => do
    let a ← loadObject id .answer
    permit user .answerEdit id
    return {
      write := .updateAnswer id i.content
      event := fun _ => Event.onObject? .answerUpdate user a }
  | acceptAnswer id => planAcceptance user id
  | deleteAnswer id => planAnswerDeletion user id
  | addComment i => planComment user i
  | deleteComment id => planCommentDeletion user id
  | addReport i => planReport user i
  | vote i up => planVote user i up

end ChangeRequest

/-- A request for a change from its body to the reply: the body is read before the caller is asked
for. -/
def ChangeKind.handle (k : ChangeKind) (c : Context) (r : Request) : Handler Json := do
  let request ← Handler.known (k.read r)
  let user ← Handler.known c.requireUser
  (← request.plan user.userId).carryOut

end Forum
