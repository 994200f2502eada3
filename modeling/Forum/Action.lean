import Forum.Object

/-!
# Actions

The actions that take reputation. The threshold of an action is the setting `rank.` followed by its
name.

* `Action`, `Action.all`, `Action.ofName?`, `Action.settingKey`;
* `Action.vote?`: the action that a vote on an object is.
-/

namespace Forum

/-- The actions that take reputation. -/
inductive Action where
  | questionAdd
  | questionEdit
  | questionEditWithoutReview
  | questionDelete
  | questionClose
  | questionReopen
  | questionPin
  | questionUnpin
  | questionVoteUp
  | questionVoteDown
  | answerAdd
  | answerEdit
  | answerEditWithoutReview
  | answerDelete
  | answerAccept
  | answerVoteUp
  | answerVoteDown
  | commentAdd
  | commentEdit
  | commentDelete
  | commentVoteUp
  | commentVoteDown
  | reportAdd
  | tagAdd
  | tagEdit
  | tagDelete
  | tagSynonym
  | linkUrlLimit
  | voteDetail
deriving DecidableEq, Repr

namespace Action

def all : List Action :=
  [questionAdd, questionEdit, questionEditWithoutReview, questionDelete, questionClose,
    questionReopen, questionPin, questionUnpin, questionVoteUp, questionVoteDown, answerAdd,
    answerEdit, answerEditWithoutReview, answerDelete, answerAccept, answerVoteUp, answerVoteDown,
    commentAdd, commentEdit, commentDelete, commentVoteUp, commentVoteDown, reportAdd, tagAdd,
    tagEdit, tagDelete, tagSynonym, linkUrlLimit, voteDetail]

def name : Action → String
  | questionAdd => "question.add"
  | questionEdit => "question.edit"
  | questionEditWithoutReview => "question.edit_without_review"
  | questionDelete => "question.delete"
  | questionClose => "question.close"
  | questionReopen => "question.reopen"
  | questionPin => "question.pin"
  | questionUnpin => "question.unpin"
  | questionVoteUp => "question.vote_up"
  | questionVoteDown => "question.vote_down"
  | answerAdd => "answer.add"
  | answerEdit => "answer.edit"
  | answerEditWithoutReview => "answer.edit_without_review"
  | answerDelete => "answer.delete"
  | answerAccept => "answer.accept"
  | answerVoteUp => "answer.vote_up"
  | answerVoteDown => "answer.vote_down"
  | commentAdd => "comment.add"
  | commentEdit => "comment.edit"
  | commentDelete => "comment.delete"
  | commentVoteUp => "comment.vote_up"
  | commentVoteDown => "comment.vote_down"
  | reportAdd => "report.add"
  | tagAdd => "tag.add"
  | tagEdit => "tag.edit"
  | tagDelete => "tag.delete"
  | tagSynonym => "tag.synonym"
  | linkUrlLimit => "link.url_limit"
  | voteDetail => "vote.detail"

def ofName? (s : String) : Option Action := all.find? (·.name = s)

/-- The setting that holds the threshold. -/
def settingKey (a : Action) : String := "rank." ++ a.name

/-- The action that a vote on an object is. Tags and users are not voted on. -/
def vote? : ObjectKind → (up : Bool) → Option Action
  | .question, true => some questionVoteUp
  | .question, false => some questionVoteDown
  | .answer, true => some answerVoteUp
  | .answer, false => some answerVoteDown
  | .comment, true => some commentVoteUp
  | .comment, false => some commentVoteDown
  | .tag, _ | .user, _ => none

def decoder : Json.Decoder Action := Json.Decoder.choice ofName?

end Action

end Forum
