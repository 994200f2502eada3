import Forum.Http.Change
import Forum.Proofs.Handler

/-!
# Planned changes in a world

Each plan of `ChangeRequest` says what it needs and what it then writes.

* `planQuestion_eq_ok`, `planAnswer_eq_ok`, …: when a plan succeeds, and with which change;
* `Stepwise`, **`Stepwise.plan`**: what the steps of plans have in common, every plan has;
* **`looks_plan`**: a plan changes nothing and offers no event.
-/

namespace Forum.ChangeRequest

open Handler Change Service

variable (w : World) {user id : String} {ch : Change}

/-! ## When plans succeed -/

theorem permitted_eq_ok {a : Action} {object : String} {planned : Change} :
    w.result (do permit user a object; return planned : Handler Change).run = .ok ch ↔
      w.Permits user a object ∧ planned = ch := by
  simp only [World.result_bind_eq_ok, permit_eq_ok, exists_const, World.result_pure_except,
    Except.ok.injEq]

theorem loaded_eq_ok {kind : ObjectKind} {rest : ObjectInfo → Handler Change}
    {P : ObjectInfo → Prop} (h : ∀ o, w.result (rest o).run = .ok ch ↔ P o) :
    w.result (do rest (← loadObject id kind) : Handler Change).run = .ok ch ↔
      ∃ o, w.Loads id kind o ∧ P o := by
  rw [World.result_bind_eq_ok]
  exact exists_congr fun o => and_congr (loadObject_eq_ok w) (h o)

theorem planQuestion_eq_ok {a : Action} {type : EventType} {write : Write} :
    w.result (planQuestion user a type id write).run = .ok ch ↔
      ∃ q, w.Loads id .question q ∧ w.Permits user a id ∧
        { write, event := fun _ => onQuestion type user id q.creator } = ch :=
  loaded_eq_ok w fun _ => permitted_eq_ok w

/-- The action and the event that a new status is; nobody deletes a question this way. -/
def statusAct? : QuestionStatus → Option (Action × EventType)
  | .closed => some (.questionClose, .questionClose)
  | .open_ => some (.questionReopen, .questionReopen)
  | .deleted => none

theorem planStatus_eq_ok {status : QuestionStatus} :
    w.result (planStatus user id status).run = .ok ch ↔
      ∃ act, statusAct? status = some act ∧
        ∃ q, w.Loads id .question q ∧ w.Permits user act.1 id ∧
          { write := .updateQuestionStatus id status
            event := fun _ => onQuestion act.2 user id q.creator } = ch := by
  cases status with
  | closed => simp [planStatus, statusAct?, planQuestion_eq_ok]
  | open_ => simp [planStatus, statusAct?, planQuestion_eq_ok]
  | deleted => simp [planStatus, statusAct?]

theorem planPinned_eq_ok {pinned : Bool} :
    w.result (planPinned user id pinned).run = .ok ch ↔
      ∃ q, w.Loads id .question q ∧
        w.Permits user (if pinned then .questionPin else .questionUnpin) id ∧
        { write := .setQuestionPinned id pinned
          event := fun _ => onQuestion (if pinned then .questionPin else .questionUnpin) user id
            q.creator } = ch := by
  cases pinned <;> simp [planPinned, planQuestion_eq_ok]

theorem planAnswer_eq_ok {i : AnswerInput} :
    w.result (planAnswer user i).run = .ok ch ↔
      ∃ q, w.Loads i.questionId .question q ∧ w.Permits user .answerAdd "" ∧
        { write := .createAnswer ⟨i.questionId, user, i.content⟩
          event := fun id => (onQuestion .answerCreate user i.questionId q.creator).map
            (·.withAnswer id (some user))
          data := created } = ch :=
  loaded_eq_ok w fun _ => permitted_eq_ok w

theorem questionOf_eq_ok {o : ObjectInfo} {q : String} :
    w.result (questionOf o id).run = .ok q ↔ o.questionId = some q := by
  unfold questionOf
  cases o.questionId <;> simp

theorem planAcceptance_eq_ok :
    w.result (planAcceptance user id).run = .ok ch ↔
      ∃ a, w.Loads id .answer a ∧ ∃ q, a.questionId = some q ∧
        ∃ question, w.Loads q .question question ∧ w.Permits user .answerAccept q ∧
          { write := .acceptAnswer q id
            event := fun _ => (onQuestion .answerAccept user q question.creator).map
              (·.withAnswer id (some a.creator)) } = ch := by
  refine loaded_eq_ok w fun a => ?_
  rw [World.result_bind_eq_ok]
  refine exists_congr fun q => and_congr (questionOf_eq_ok w) ?_
  exact loaded_eq_ok w fun _ => permitted_eq_ok w

theorem planAnswerDeletion_eq_ok :
    w.result (planAnswerDeletion user id).run = .ok ch ↔
      ∃ a, w.Loads id .answer a ∧ w.Permits user .answerDelete id ∧
        { write := .deleteAnswer id
          event := fun _ => some (({ type := .answerDelete, userId := user
                                     questionId := a.questionId } : Event).withAnswer id
            (some a.creator)) } = ch :=
  loaded_eq_ok w fun _ => permitted_eq_ok w

theorem planCommentDeletion_eq_ok :
    w.result (planCommentDeletion user id).run = .ok ch ↔
      ∃ c, w.Loads id .comment c ∧ w.Permits user .commentDelete id ∧
        { write := .deleteComment id
          event := fun _ => some (({ type := .commentDelete, userId := user
                                     questionId := c.questionId } : Event).withComment id
            (some c.creator)) } = ch :=
  loaded_eq_ok w fun _ => permitted_eq_ok w

theorem loadCommentable_eq_ok {o : ObjectInfo} :
    w.result (loadCommentable id).run = .ok o ↔
      w.Loads id .question o ∨ w.Loads id .answer o := by
  unfold loadCommentable
  split
  · next h => simp [loadObject_eq_ok, World.Loads, h]
  · next h => simp [loadObject_eq_ok, World.Loads, h]
  · next hq ha =>
    simp only [World.result_throw, reduceCtorEq, World.Loads, false_iff, not_or, not_and]
    exact ⟨fun h => (hq h).elim, fun h => (ha h).elim⟩

/-- The question that a comment on an object is found under. -/
def commentQuestion? (o : ObjectInfo) : Option String :=
  if o.kind = .question then some o.objectId else o.questionId

theorem planComment_eq_ok {i : CommentInput} :
    w.result (planComment user i).run = .ok ch ↔
      ∃ o, (w.Loads i.objectId .question o ∨ w.Loads i.objectId .answer o) ∧
        ∃ q, commentQuestion? o = some q ∧ w.Permits user .commentAdd "" ∧
          { write := .createComment ⟨user, i.objectId, q, i.content⟩
            event := fun id => (Event.onObject? .commentCreate user o).map
              (·.withComment id (some user))
            data := created } = ch := by
  rw [planComment, World.result_bind_eq_ok]
  refine exists_congr fun o => and_congr (loadCommentable_eq_ok w) ?_
  unfold commentQuestion?
  dsimp only
  split
  · rw [World.result_bind_eq_ok]
    refine exists_congr fun q => and_congr ?_ (permitted_eq_ok w)
    rw [World.result_pure_except, Except.ok.injEq, Option.some.injEq]
  · rw [World.result_bind_eq_ok]
    exact exists_congr fun q => and_congr (questionOf_eq_ok w) (permitted_eq_ok w)

theorem reportable_eq_ok {kind : ObjectKind} :
    w.result (reportable id).run = .ok kind ↔ ObjectKind.ofObjectId? id = some kind ∧
      (kind = .question ∨ kind = .answer ∨ kind = .comment) := by
  unfold reportable
  split
  · next h => rw [h]; cases kind <;> simp
  · next h => rw [h]; cases kind <;> simp
  · next h => rw [h]; cases kind <;> simp
  · next hq ha hc =>
    simp only [World.result_throw, reduceCtorEq, false_iff, not_and, not_or]
    exact fun h => ⟨fun e => hq (e ▸ h), fun e => ha (e ▸ h), fun e => hc (e ▸ h)⟩

theorem planReport_eq_ok {i : ReportInput} :
    w.result (planReport user i).run = .ok ch ↔
      ∃ kind, (ObjectKind.ofObjectId? i.objectId = some kind ∧
          (kind = .question ∨ kind = .answer ∨ kind = .comment)) ∧
        ∃ o, w.answer (.objectInfo i.objectId) = .ok o ∧ w.Permits user .reportAdd "" ∧
          { write := .addReport ⟨user, i.objectId, kind, i.reason⟩
            event := fun _ => Event.onObject? .reportCreate user o } = ch := by
  rw [planReport, World.result_bind_eq_ok]
  refine exists_congr fun kind => and_congr (reportable_eq_ok w) ?_
  rw [World.result_bind_eq_ok]
  exact exists_congr fun o => and_congr w.objectInfo_eq_ok (permitted_eq_ok w)

theorem planVote_eq_ok {i : VoteInput} {up : Bool} :
    w.result (planVote user i up).run = .ok ch ↔
      ∃ o, w.answer (.objectInfo i.objectId) = .ok o ∧ o.isCreatedBy user = false ∧
        w.result (Rank.checkVote user o up).run = .ok true ∧
          { write := .recordVote user o up
            event := fun r => if r.userVote = 0 then none else
              Event.onObject? (if up then .voteUp else .voteDown) user o
            data := VoteResult.toJson } = ch := by
  simp only [planVote, World.result_bind_eq_ok]
  refine exists_congr fun o => and_congr w.objectInfo_eq_ok ?_
  cases hc : o.isCreatedBy user with
  | true => simp
  | false =>
    simp only [Bool.false_eq_true, if_false, true_and, World.result_bind_eq_ok,
      World.result_ofFallible_eq_ok]
    rw [Bool.exists_bool]
    simp

/-! ## What plans are made of -/

/-- A property of the steps of plans that sequences inherit. -/
structure Stepwise (P : ∀ {α : Type}, Handler α → Prop) : Prop where
  pure {α : Type} (a : α) : P (pure a : Handler α)
  throw {α : Type} (e : ApiError) : P (throw e : Handler α)
  bind {α β : Type} {p : Handler α} {f : α → Handler β} (hp : P p) (hf : ∀ a, P (f a)) : P (p >>= f)
  objectInfo (id : String) : P (ofFallible (Service.call (.objectInfo id)))
  permit (user : String) (a : Action) (object : String) : P (Handler.permit user a object)
  checkVote (user : String) (o : ObjectInfo) (up : Bool) : P (ofFallible (Rank.checkVote user o up))

namespace Stepwise

variable {P : ∀ {α : Type}, Handler α → Prop}

theorem loadObject (h : Stepwise P) (id : String) (kind : ObjectKind) :
    P (Handler.loadObject id kind) := by
  unfold Handler.loadObject
  split
  · exact h.objectInfo id
  · exact h.throw _

theorem permitted (h : Stepwise P) {a : Action} {object : String} {planned : Change} :
    P (do Handler.permit user a object; return planned) :=
  h.bind (h.permit _ _ _) fun _ => h.pure _

theorem loaded (h : Stepwise P) {kind : ObjectKind} {rest : ObjectInfo → Handler Change}
    (hrest : ∀ o, P (rest o)) : P (do rest (← Handler.loadObject id kind)) :=
  h.bind (h.loadObject _ _) hrest

theorem refused (h : Stepwise P) {c : Prop} [Decidable c] {e : ApiError} {rest : Handler Change}
    (hrest : P rest) : P (do
      if c then MonadExcept.throw e
      rest) := by
  dsimp only
  split
  · exact h.bind (h.throw _) fun _ => hrest
  · exact hrest

theorem planQuestion (h : Stepwise P) (a : Action) (type : EventType) (write : Write) :
    P (ChangeRequest.planQuestion user a type id write) :=
  h.loaded fun _ => h.permitted

theorem questionOf (h : Stepwise P) (o : ObjectInfo) : P (ChangeRequest.questionOf o id) := by
  unfold ChangeRequest.questionOf
  split
  · exact h.pure _
  · exact h.throw _

theorem planComment (h : Stepwise P) (i : CommentInput) :
    P (ChangeRequest.planComment user i) := by
  have target : P (loadCommentable i.objectId) := by
    unfold loadCommentable
    split
    · exact h.loadObject _ _
    · exact h.loadObject _ _
    · exact h.throw _
  refine h.bind target fun o => ?_
  dsimp only
  split
  · exact h.bind (h.pure _) fun _ => h.permitted
  · exact h.bind (h.questionOf o) fun _ => h.permitted

theorem planReport (h : Stepwise P) (i : ReportInput) : P (ChangeRequest.planReport user i) := by
  have kind : P (reportable i.objectId) := by
    unfold reportable
    split
    · exact h.pure _
    · exact h.pure _
    · exact h.pure _
    · exact h.throw _
  exact h.bind kind fun _ => h.bind (h.objectInfo _) fun _ => h.permitted

theorem planVote (h : Stepwise P) (i : VoteInput) (up : Bool) :
    P (ChangeRequest.planVote user i up) := by
  refine h.bind (h.objectInfo _) fun o => h.refused ?_
  refine h.bind (h.checkVote user o up) fun _ => h.refused ?_
  exact h.pure _

/-- **A plan has every property of its steps.** -/
theorem plan (h : Stepwise P) (q : ChangeRequest) : P (q.plan user) := by
  cases q with
  | addQuestion i => exact h.permitted
  | editQuestion id i => exact h.planQuestion _ _ _
  | setStatus id s =>
    cases s with
    | open_ | closed => exact h.planQuestion _ _ _
    | deleted => exact h.throw _
  | setPinned id p => cases p <;> exact h.planQuestion _ _ _
  | deleteQuestion id => exact h.planQuestion _ _ _
  | addAnswer i => exact h.loaded fun _ => h.permitted
  | editAnswer id i => exact h.loaded fun _ => h.permitted
  | acceptAnswer id =>
    exact h.loaded fun _ => h.bind (h.questionOf _) fun _ => h.loaded fun _ => h.permitted
  | deleteAnswer id => exact h.loaded fun _ => h.permitted
  | addComment i => exact h.planComment i
  | deleteComment id => exact h.loaded fun _ => h.permitted
  | addReport i => exact h.planReport i
  | vote i up => exact h.planVote i up

end Stepwise

theorem stepwise_looks : Stepwise fun p => Looks p.run where
  pure := looks_pure_except
  throw := looks_throw
  bind := Looks.bind_except
  objectInfo _ := (looks_call rfl).ofFallible
  permit := looks_permit
  checkVote user o up := (Rank.looks_checkVote user o up).ofFallible

/-- **A plan only looks.** -/
theorem looks_plan (q : ChangeRequest) : Looks (q.plan user).run := stepwise_looks.plan q

end Forum.ChangeRequest
