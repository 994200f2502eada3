import Forum.Storage.Basic

/-!
# Changes of content in the database

Nothing is removed: what is deleted is only marked, and stays so. What changes more than one row is
a transaction.

* `Storage.change`: the program of each change.
-/

namespace Forum.Storage

open Sql

/-- The id of a new post. -/
def nextId (p : Post) : Stored String := do
  return p.kind.objectId (← fetchOne (.nextId p) (scalar (.int .int64)))

/-- A new question. -/
def createQuestion (q : NewQuestion) : Stored String := do
  let id ← nextId .question
  let _ ← execute (.insertQuestion id q)
  return id

/-- A new answer; its question counts it and must be there. -/
def createAnswer (a : NewAnswer) : Stored String := transaction do
  executeOn a.questionId (.countAnswer a.questionId)
  let id ← nextId .answer
  let _ ← execute (.insertAnswer id a)
  return id

/-- A new comment. -/
def createComment (c : NewComment) : Stored String := do
  let id ← nextId .comment
  let _ ← execute (.insertComment id c)
  return id

/-- The deletion of an answer; its question counts and accepts it no longer. -/
def deleteAnswer (id : String) : Stored Unit := transaction do
  let questionId ← fetchOn id (.removeAnswer id) (scalar .text)
  let _ ← execute (.uncountAnswer questionId id)

/-- The acceptance of an answer, in place of the one accepted before. -/
def acceptAnswer (questionId answerId : String) : Stored Unit := transaction do
  let _ ← execute (.clearAccepted questionId)
  executeOn answerId (.markAccepted answerId questionId)
  let _ ← execute (.setAccepted questionId answerId)

/-- A vote as a number. -/
def direction (up : Bool) : Int := if up then 1 else -1

/-- The user's vote on an object, stored or taken back: the same vote a second time takes it back.
The result is the vote after it. -/
def storeVote (userId : String) (o : ObjectInfo) (earlier : Option Int) (up : Bool) : Stored Int :=
  if earlier = some (direction up) then do
    let _ ← execute (.deleteVote userId o.objectId)
    return 0
  else do
    let _ ← execute (.putVote userId o.objectId o.kind (direction up))
    return direction up

/-- A vote on a post, and the votes of the post changed by as much. -/
def votePost (p : Post) (userId : String) (o : ObjectInfo) (up : Bool) : Stored VoteResult :=
  transaction do
    let earlier ← fetchOptional (.lockVote userId o.objectId) (scalar (.int .int16))
    let vote ← storeVote userId o earlier up
    let count ← fetchOn o.objectId (.addToVotes p (vote - earlier.getD 0) o.objectId)
      (scalar (.int .int64))
    return ⟨count, vote⟩

/-- A vote on an object. -/
def recordVote (userId : String) (o : ObjectInfo) (up : Bool) : Stored VoteResult :=
  match Post.ofKind? o.kind with
  | some p => votePost p userId o up
  | none => throw (.validation (o.kind.name ++ " 不支持投票"))

/-- The program of a change. -/
def change : (w : Write) → Stored w.Reply
  | .createQuestion q => createQuestion q
  | .updateQuestion id t c => executeOn id (.editQuestion id t c)
  | .createAnswer a => createAnswer a
  | .updateAnswer id c => executeOn id (.editAnswer id c)
  | .createComment c => createComment c
  | .addReport r => fetchOne (.insertReport r) (scalar (.int .int64))
  | .deleteQuestion id => executeOn id (.setQuestionStatus id .deleted)
  | .updateQuestionStatus id s => executeOn id (.setQuestionStatus id s)
  | .setQuestionPinned id p => executeOn id (.setQuestionPinned id p)
  | .deleteAnswer id => deleteAnswer id
  | .acceptAnswer q a => acceptAnswer q a
  | .deleteComment id => executeOn id (.removeComment id)
  | .recordVote u o up => recordVote u o up

end Forum.Storage
