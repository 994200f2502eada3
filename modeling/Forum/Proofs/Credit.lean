import Forum.Proofs.Announcement
import Forum.Proofs.Proposals

/-!
# Whom an up-vote credits

The event of an up-vote names the object that was voted on with its creator, and the question around
it without one. So the rules of badges credit the voter and the creator of the object, and nobody
else.

* `Event.IsOn`: what an event on an object tells of it;
* `World.Credits`: when a rule proposes an award of a badge for an act on an object;
* **`result_propose_of_isOn`**: the proposals of every rule for such an event;
* `ChangeRequest.event_of_planVote`: the event of a planned vote;
* **`upVote_credits`**: what an up-vote gives rise to.
-/

namespace Forum

/-! ## Events on objects -/

/-- What an event on an object tells of it. Only the object has its creator told. -/
structure Event.IsOn (e : Event) (o : ObjectInfo) : Prop where
  target : e.targetId? = some o.objectId
  comment : e.commentId.isSome = (o.kind = .comment : Bool)
  answer : e.answerId = if o.kind = .answer then some o.objectId else none
  answerUser : e.answerUserId = if o.kind = .answer then some o.creator else none
  question : o.kind = .question → e.questionId = some o.objectId
  questionUser : e.questionUserId = if o.kind = .question then some o.creator else none

theorem Event.isOn_of_onObject? (type : EventType) (user : String) {o : ObjectInfo}
    (hk : o.kind = .question ∨ o.kind = .answer ∨ o.kind = .comment) :
    ∃ e, onObject? type user o = some e ∧ e.type = type ∧ e.userId = user ∧ e.IsOn o := by
  obtain ⟨e, he, ht, hu, habout⟩ := onObject?_eq_some type user hk
  refine ⟨e, he, ht, hu, ?_⟩
  unfold onObject? at he
  rcases hk with hk | hk | hk <;> rw [hk] at he
  · cases he
    refine ⟨habout.1, ?_, ?_, ?_, ?_, ?_⟩ <;> simp [hk, withQuestion]
  · cases hq : o.questionId <;> rw [hq] at he <;> cases he <;>
      refine ⟨habout.1, ?_, ?_, ?_, ?_, ?_⟩ <;> simp [hk, withQuestion, withAnswer]
  · cases hq : o.questionId <;> rw [hq] at he <;> cases he <;>
      refine ⟨habout.1, ?_, ?_, ?_, ?_, ?_⟩ <;> simp [hk, withQuestion, withComment]

/-! ## Credit -/

namespace World

variable (w : World)

/-- The votes of an object reach the threshold of a badge. -/
def VotesReach (badge : Badge) (object : String) : Prop :=
  ∃ amount n, badge.amount? = some amount ∧ w.answer (.voteCount object) = .ok n ∧ amount ≤ n

/-- The accepted answers of a user reach the threshold of a badge. -/
def AcceptedReach (badge : Badge) (user : String) : Prop :=
  ∃ amount n, badge.amount? = some amount ∧ w.answer (.acceptedCount user) = .ok n ∧ amount ≤ n

/-- When a rule proposes an award of a badge for a user's act on an object: the first acts are to
the credit of the user, and counts are to the credit of the creator of the object. -/
def Credits (user : String) (o : ObjectInfo) (badge : Badge) (g : Grant) : BadgeRule → Prop
  | .firstPost | .firstPostEdit | .firstFlaggedPost | .firstUpVote | .firstAcceptAnswer =>
    user ≠ "" ∧ g = ⟨user, badge.id, o.objectId⟩
  | .reachQuestionVote => o.kind = .question ∧ w.VotesReach badge o.objectId ∧
    g = ⟨o.creator, badge.id, o.objectId⟩
  | .reachAnswerVote => o.kind = .answer ∧ w.VotesReach badge o.objectId ∧
    g = ⟨o.creator, badge.id, o.objectId⟩
  | .reachAnswerAcceptedAmount => o.kind = .answer ∧ w.AcceptedReach badge o.creator ∧
    g = ⟨o.creator, badge.id, o.objectId⟩

variable {w} {user : String} {o : ObjectInfo} {badge : Badge} {g : Grant} {r : BadgeRule}

theorem Credits.key_eq (h : w.Credits user o badge g r) : g.badgeId = badge.id ∧ g.key = o.objectId := by
  cases r with
  | firstPost | firstPostEdit | firstFlaggedPost | firstUpVote | firstAcceptAnswer =>
    obtain ⟨-, rfl⟩ := h
    exact ⟨rfl, rfl⟩
  | reachQuestionVote | reachAnswerVote | reachAnswerAcceptedAmount =>
    obtain ⟨-, -, rfl⟩ := h
    exact ⟨rfl, rfl⟩

theorem Credits.user_eq (h : w.Credits user o badge g r) :
    g.userId = user ∨ g.userId = o.creator ∧ o.kind ≠ .comment := by
  cases r with
  | firstPost | firstPostEdit | firstFlaggedPost | firstUpVote | firstAcceptAnswer =>
    obtain ⟨-, rfl⟩ := h
    exact .inl rfl
  | reachQuestionVote | reachAnswerVote | reachAnswerAcceptedAmount =>
    obtain ⟨hkind, -, rfl⟩ := h
    exact .inr ⟨rfl, by simp [hkind]⟩

end World

namespace BadgeRule

variable (w : World) {e : Event} {o : ObjectInfo} {badge : Badge} {g : Grant}

/-- **The proposal of a rule** for an event on an object. -/
theorem result_propose_of_isOn (he : e.IsOn o) (r : BadgeRule) :
    w.result (r.propose badge e).run = .ok (some g) ↔ w.Credits e.userId o badge g r := by
  cases r with
  | firstPost | firstPostEdit | firstFlaggedPost | firstUpVote | firstAcceptAnswer =>
    rw [propose, World.result_pure_except, World.Credits, he.target]
    by_cases hu : e.userId = ""
    · simp [hu]
    · simp [hu, eq_comm]
  | reachQuestionVote =>
    rw [propose, World.Credits]
    by_cases hk : o.kind = .question
    · -- The event has neither an answer nor a comment, and its question is the object.
      have hno : ¬ (e.answerId.isSome = true ∨ e.commentId.isSome = true) := by
        simp [he.answer, he.comment, hk]
      rw [if_neg hno, he.question hk, he.questionUser, if_pos hk, result_reach_some]
      exact (and_iff_right hk).symm
    · -- The creator of the question around the object is not told.
      split
      · simp [hk]
      · rw [result_reach_eq_some, he.questionUser, if_neg hk]
        simp [hk]
  | reachAnswerVote =>
    rw [propose, World.Credits]
    split
    next hcomment =>
      have hk : o.kind = .comment := by simpa [he.comment] using hcomment
      simp [hk]
    next =>
      rw [he.answer, he.answerUser, result_reach_ite]
      rfl
  | reachAnswerAcceptedAmount =>
    rw [propose, World.Credits, he.answer, he.answerUser, result_reach_ite]
    rfl

theorem result_proposeFor_of_isOn (he : e.IsOn o) :
    w.result (proposeFor e badge).run = .ok (some g) ↔
      ∃ r, ofName? badge.handler = some r ∧ w.Credits e.userId o badge g r := by
  unfold proposeFor
  cases hr : ofName? badge.handler with
  | none => simp
  | some r => simp [result_propose_of_isOn w he]

theorem voteCount_eq_of_isOn (he : e.IsOn o) {id : String} (h : Reads e (.call (.voteCount id))) :
    id = o.objectId := by
  obtain ⟨hcomment, h⟩ := h
  have hk : o.kind ≠ .comment := by
    have := he.comment
    intro hk
    simp [hk, hcomment] at this
  have htarget := he.target
  rw [Event.targetId?, hcomment] at htarget
  rcases h with h | ⟨hanswer, h⟩
  · rw [h] at htarget
    exact Option.some.inj htarget
  · rw [hanswer, h] at htarget
    exact Option.some.inj htarget

end BadgeRule

/-! ## Up-votes -/

theorem ChangeRequest.event_of_planVote {w : World} {user : String} {i : VoteInput} {up : Bool}
    {ch : Change} (h : w.result (planVote user i up).run = .ok ch) (reply : ch.write.Reply) :
    ∃ o, w.answer (.objectInfo i.objectId) = .ok o ∧
      (o.kind = .question ∨ o.kind = .answer ∨ o.kind = .comment) ∧ o.creator ≠ user ∧
      (ch.event reply = none ∨
        ch.event reply = Event.onObject? (if up then .voteUp else .voteDown) user o) := by
  obtain ⟨o, ho, -, hmay, rfl⟩ := (planVote_eq_ok w).mp h
  obtain ⟨-, hother, hkind, -⟩ := (Rank.checkVote_eq_true w).mp hmay
  refine ⟨o, ho, hkind, hother, ?_⟩
  dsimp only
  split
  · exact .inl rfl
  · exact .inr rfl

/-- **What an up-vote gives rise to.** The event of a planned up-vote is the event on the object
that is looked up, which somebody else created; and every question, answer and comment has such an
event. Its evaluation fails only as a call does. It proposes an award of a listed badge exactly if
the badge's rule credits the voter for the object, or its creator for the count of its votes, and no
other votes are counted. So nobody but the voter and the creator of the object is credited, and the
latter only for a question or an answer. -/
theorem upVote_credits :
    (∀ (w : World) user i (ch : Change) (reply : ch.write.Reply),
      w.result (ChangeRequest.planVote user i true).run = .ok ch →
      ∃ o, w.answer (.objectInfo i.objectId) = .ok o ∧
        (o.kind = .question ∨ o.kind = .answer ∨ o.kind = .comment) ∧ o.creator ≠ user ∧
        (ch.event reply = none ∨ ch.event reply = Event.onObject? .voteUp user o)) ∧
    ∀ user (o : ObjectInfo), (o.kind = .question ∨ o.kind = .answer ∨ o.kind = .comment) →
      ∃ e, Event.onObject? .voteUp user o = some e ∧ ∀ w : World,
        w.FailsAsCalled (BadgeRule.evaluate e) ∧
        (∀ id, .call (.voteCount id) ∈ w.asked (BadgeRule.evaluate e).run → id = o.objectId) ∧
        ∀ grants, w.result (BadgeRule.evaluate e).run = .ok grants →
          ∃ badges, w.answer (.badgesOfHandlers
              ["FirstUpVote", "ReachQuestionVote", "ReachAnswerVote"]) = .ok badges ∧
            (∀ g, g ∈ grants ↔ ∃ badge ∈ badges, ∃ r, BadgeRule.ofName? badge.handler = some r ∧
              w.Credits user o badge g r) ∧
            ∀ g ∈ grants, g.key = o.objectId ∧
              (g.userId = user ∨ g.userId = o.creator ∧ o.kind ≠ .comment) := by
  refine ⟨fun w user i ch reply h => ChangeRequest.event_of_planVote h reply, ?_⟩
  intro user o hk
  obtain ⟨e, he, htype, rfl, hon⟩ := Event.isOn_of_onObject? .voteUp user hk
  refine ⟨e, he, fun w => ⟨BadgeRule.failsAsCalled_evaluate e, fun id hid => ?_, ?_⟩⟩
  · exact BadgeRule.voteCount_eq_of_isOn hon
      (w.forall_mem_asked (BadgeRule.asks_evaluate e) _ hid)
  · intro grants hgrants
    have hrules : BadgeRule.ofEvent e.type =
        [.firstUpVote, .reachQuestionVote, .reachAnswerVote] := by rw [htype]; rfl
    obtain ⟨badges, hbadges, hmem⟩ :=
      BadgeRule.mem_of_evaluate w (by rw [hrules]; exact List.cons_ne_nil _ _) hgrants
    rw [hrules] at hbadges
    have hcredits : ∀ g, g ∈ grants ↔ ∃ badge ∈ badges, ∃ r,
        BadgeRule.ofName? badge.handler = some r ∧ w.Credits e.userId o badge g r := by
      intro g
      rw [hmem]
      exact exists_congr fun badge => and_congr_right fun _ =>
        BadgeRule.result_proposeFor_of_isOn w hon
    refine ⟨badges, hbadges, hcredits, fun g hg => ?_⟩
    obtain ⟨badge, -, r, -, hcredit⟩ := (hcredits g).mp hg
    exact ⟨hcredit.key_eq.2, hcredit.user_eq⟩

/-- A badge of a rule with a threshold of ten. -/
def tenBadge (id : Int) (r : BadgeRule) : Badge where
  id := id
  name := r.name
  icon := none
  description := none
  level := .bronze
  awardType := .multiple
  handler := r.name
  param := .object [("amount", .int 10)]
  status := .active
  awardCount := 0
  createdAt := ⟨0, 0⟩
  updatedAt := ⟨0, 0⟩

/-- An answer of cat to a question. -/
def catsAnswer : ObjectInfo where
  objectId := "10020000000000001"
  kind := .answer
  creator := "cat"
  questionId := some "10010000000000001"

/-- A world where the answer of cat has twelve votes, and the question around it twenty. -/
def votedAnswer : World where
  answer
    | .objectInfo _ => .ok catsAnswer
    | .userById id => .ok (some ⟨id, id, id, 1, true, .normal⟩)
    | .badgesOfHandlers _ =>
      .ok [tenBadge 1 .firstUpVote, tenBadge 2 .reachQuestionVote, tenBadge 3 .reachAnswerVote]
    | .voteCount id => .ok (if id = catsAnswer.objectId then 12 else 20)
    | _ => .error (.internal "")
  accepts _ := true

/-- Ann votes for the answer of cat. Ann is credited for an up-vote, and cat for the answer. -/
theorem upVote_credits_answer :
    ∃ ch : Change, ∃ e,
      votedAnswer.result (ChangeRequest.planVote "ann" ⟨catsAnswer.objectId⟩ true).run = .ok ch ∧
      (∀ reply, ch.event reply = none ∨ ch.event reply = some e) ∧
      votedAnswer.result (BadgeRule.evaluate e).run =
        .ok [⟨"ann", 1, catsAnswer.objectId⟩, ⟨"cat", 3, catsAnswer.objectId⟩] ∧
      ∀ g ∈ [⟨"ann", 1, catsAnswer.objectId⟩, ⟨"cat", 3, catsAnswer.objectId⟩],
        Grant.userId g = "ann" ∨ g.userId = catsAnswer.creator ∧ catsAnswer.kind ≠ .comment := by
  have hplanned : ∃ ch,
      votedAnswer.result (ChangeRequest.planVote "ann" ⟨catsAnswer.objectId⟩ true).run = .ok ch :=
    ⟨_, rfl⟩
  obtain ⟨ch, hch⟩ := hplanned
  obtain ⟨e, he, hevaluated⟩ := upVote_credits.2 "ann" catsAnswer (.inr (.inl rfl))
  have hgrants : votedAnswer.result (BadgeRule.evaluate e).run =
      .ok [⟨"ann", 1, catsAnswer.objectId⟩, ⟨"cat", 3, catsAnswer.objectId⟩] := by
    cases he
    rfl
  refine ⟨ch, e, hch, fun reply => ?_, hgrants, fun g hg => ?_⟩
  · obtain ⟨o, ho, -, -, hevent⟩ := upVote_credits.1 votedAnswer _ _ ch reply hch
    obtain rfl : catsAnswer = o := Except.ok.inj ho
    rwa [he] at hevent
  · obtain ⟨-, -, -, hall⟩ := (hevaluated votedAnswer).2.2 _ hgrants
    exact (hall g hg).2

end Forum
