import Forum.Service

/-!
# Badge rules

Every badge names a rule. A rule is tried on the events it is about, and proposes an award when it
holds.

* `BadgeRule`, `BadgeRule.ofEvent`: the rules an event can satisfy;
* `BadgeRule.propose`: the award that a rule proposes for a badge;
* `BadgeRule.evaluate`: all proposals for an event, in the order in which the badges are listed.
-/

namespace Forum

/-- The rules of badges. -/
inductive BadgeRule where
  | firstPost
  | firstPostEdit
  | firstFlaggedPost
  | firstUpVote
  | firstAcceptAnswer
  | reachQuestionVote
  | reachAnswerVote
  | reachAnswerAcceptedAmount
deriving DecidableEq, Repr

namespace BadgeRule

def all : List BadgeRule :=
  [firstPost, firstPostEdit, firstFlaggedPost, firstUpVote, firstAcceptAnswer, reachQuestionVote,
    reachAnswerVote, reachAnswerAcceptedAmount]

def name : BadgeRule → String
  | firstPost => "FirstPost"
  | firstPostEdit => "FirstPostEdit"
  | firstFlaggedPost => "FirstFlaggedPost"
  | firstUpVote => "FirstUpVote"
  | firstAcceptAnswer => "FirstAcceptAnswer"
  | reachQuestionVote => "ReachQuestionVote"
  | reachAnswerVote => "ReachAnswerVote"
  | reachAnswerAcceptedAmount => "ReachAnswerAcceptedAmount"

def ofName? (s : String) : Option BadgeRule := all.find? (·.name = s)

/-- The rule of a name, or why there is none. -/
def ofName (s : String) : Except ServiceError BadgeRule :=
  match ofName? s with
  | some r => .ok r
  | none => .error (.validation ("未知的徽章规则: " ++ s))

/-- The rules that an event can satisfy. -/
def ofEvent : EventType → List BadgeRule
  | .questionCreate | .answerCreate => [firstPost]
  | .questionUpdate | .answerUpdate => [firstPostEdit]
  | .reportCreate => [firstFlaggedPost]
  | .voteUp => [firstUpVote, reachQuestionVote, reachAnswerVote]
  | .answerAccept => [firstAcceptAnswer, reachAnswerAcceptedAmount]
  | _ => []

/-- An award to an owner for an object, if a count reaches the badge's threshold. The count is read
only when all else is known. -/
def reach (badge : Badge) (object owner : Option String) (count : String → String → Fallible Int) :
    Fallible (Option Grant) :=
  match object, owner, badge.amount? with
  | some object, some owner, some amount => do
    let n ← count object owner
    return if amount ≤ n then some ⟨owner, badge.id, object⟩ else none
  | _, _, _ => return none

/-- The award that a rule proposes for a badge. -/
def propose (r : BadgeRule) (badge : Badge) (e : Event) : Fallible (Option Grant) :=
  match r with
  | firstPost | firstPostEdit | firstFlaggedPost | firstUpVote | firstAcceptAnswer =>
    return if e.userId = "" then none else some ⟨e.userId, badge.id, e.targetId?.getD ""⟩
  | reachQuestionVote =>
    if e.answerId.isSome ∨ e.commentId.isSome then return none
    else reach badge e.questionId e.questionUserId fun object _ => Service.call (.voteCount object)
  | reachAnswerVote =>
    if e.commentId.isSome then return none
    else reach badge e.answerId e.answerUserId fun object _ => Service.call (.voteCount object)
  | reachAnswerAcceptedAmount =>
    reach badge e.answerId e.answerUserId fun _ owner => Service.call (.acceptedCount owner)

/-- The award proposed for a badge by the rule it names; a badge of an unknown rule is passed
over. -/
def proposeFor (e : Event) (badge : Badge) : Fallible (Option Grant) :=
  match ofName? badge.handler with
  | some r => r.propose badge e
  | none => return none

/-- The awards proposed for an event. An event without rules asks nothing. -/
def evaluate (e : Event) : Fallible (List Grant) := do
  let rules := ofEvent e.type
  if rules.isEmpty then return []
  let badges ← Service.call (.badgesOfHandlers (rules.map name))
  return (← badges.mapM (proposeFor e)).filterMap id

end BadgeRule

end Forum
