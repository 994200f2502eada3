import Forum.Object

/-!
# What users write

* `QuestionStatus`, `VoteResult`;
* `NewQuestion`, `NewAnswer`, `NewComment`, `NewReport`: what is stored when a user posts.
-/

namespace Forum

/-- The status of a question. -/
inductive QuestionStatus where
  | open_
  | closed
  | deleted
deriving DecidableEq, Repr

namespace QuestionStatus

def all : List QuestionStatus := [open_, closed, deleted]

def name : QuestionStatus → String
  | open_ => "open"
  | closed => "closed"
  | deleted => "deleted"

def ofName? (s : String) : Option QuestionStatus := all.find? (·.name = s)

def decoder : Json.Decoder QuestionStatus := Json.Decoder.choice ofName?

end QuestionStatus

/-- The outcome of a vote: the count of the object, and the user's vote on it as 1, -1 or 0. -/
structure VoteResult where
  voteCount : Int
  userVote : Int
deriving DecidableEq, Repr

namespace VoteResult

def toJson (r : VoteResult) : Json :=
  .object [("voteCount", .int r.voteCount), ("userVote", .int r.userVote)]

open Json Decoder in
def record : Record VoteResult :=
  (Record.ofFunction VoteResult.mk).required "voteCount" (int .int64)
    |>.required "userVote" (int .int16)

end VoteResult

/-- A question to be stored. -/
structure NewQuestion where
  userId : String
  title : String
  content : String
deriving DecidableEq, Repr

/-- An answer to be stored. -/
structure NewAnswer where
  questionId : String
  userId : String
  content : String
deriving DecidableEq, Repr

/-- A comment on a question or an answer; `questionId` is the question it is found under. -/
structure NewComment where
  userId : String
  objectId : String
  questionId : String
  content : String
deriving DecidableEq, Repr

/-- A report on an object. -/
structure NewReport where
  userId : String
  objectId : String
  kind : ObjectKind
  reason : String
deriving DecidableEq, Repr

end Forum
