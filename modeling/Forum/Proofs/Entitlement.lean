import Forum.Http.Server
import Forum.Proofs.Plan

/-!
# Nobody changes what they are not entitled to

* `Server.Accepts`: the request carries a token that is accepted;
* `Request.endpoint?`: what a request asks for;
* `World.Entitled`: the one change that a user is entitled to by a request;
* **`entitled_of_plan`**: who gets a plan is entitled to its change;
* **`acts_carryOut`**: a planned change is one write, and events only after it;
* `Search.MayAsk`, **`asks_search`**: a search changes nothing, and only an accepted one is carried out;
* **`respond_entitled`**: a response makes no change and offers no event, or it makes the one change
  that the user of an accepted token is entitled to.
-/

namespace Forum

/-- The request carries a token that is accepted, with these claims. -/
def Server.Accepts (s : Server) (now : Int) (r : Request) (c : Claims) : Prop :=
  ∃ value, r.headerText? "authorization" = some value ∧ Server.scheme.isPrefixOf value = true ∧
    s.key.verify now (String.ofList (Text.trim (value.drop Server.scheme.length))) = .ok c

/-- What a request asks for, if its path and its method are those of an endpoint. -/
def Request.endpoint? (r : Request) : Option Endpoint := do
  let (route, part) ← Route.ofPath? r.path
  let endpoint ← route.endpoint? r.method
  let id ← Text.Utf8.decode? (Text.Percent.decode part)
  return endpoint (String.ofList id)

/-- The user is entitled to a change by what they ask for. An acceptance is judged by the question
that the answer belongs to, and what is new by no object at all. -/
def World.Entitled (w : World) (user : String) (c : Write) : ChangeRequest → Prop
  | .addQuestion i =>
    c = .createQuestion ⟨user, i.title, i.content⟩ ∧ w.Permits user .questionAdd ""
  | .editQuestion id i =>
    c = .updateQuestion id i.title i.content ∧ w.Permits user .questionEdit id
  | .setStatus id status =>
    c = .updateQuestionStatus id status ∧
      (status = .closed ∧ w.Permits user .questionClose id ∨
        status = .open_ ∧ w.Permits user .questionReopen id)
  | .setPinned id pinned =>
    c = .setQuestionPinned id pinned ∧
      w.Permits user (if pinned then .questionPin else .questionUnpin) id
  | .deleteQuestion id => c = .deleteQuestion id ∧ w.Permits user .questionDelete id
  | .addAnswer i =>
    c = .createAnswer ⟨i.questionId, user, i.content⟩ ∧ w.Permits user .answerAdd ""
  | .editAnswer id i => c = .updateAnswer id i.content ∧ w.Permits user .answerEdit id
  | .acceptAnswer id =>
    ∃ a q, w.answer (.objectInfo id) = .ok a ∧ a.questionId = some q ∧
      c = .acceptAnswer q id ∧ w.Permits user .answerAccept q
  | .deleteAnswer id => c = .deleteAnswer id ∧ w.Permits user .answerDelete id
  | .addComment i =>
    ∃ q, c = .createComment ⟨user, i.objectId, q, i.content⟩ ∧ w.Permits user .commentAdd ""
  | .deleteComment id => c = .deleteComment id ∧ w.Permits user .commentDelete id
  | .addReport i =>
    ∃ kind, c = .addReport ⟨user, i.objectId, kind, i.reason⟩ ∧ w.Permits user .reportAdd ""
  | .vote i up =>
    ∃ o, w.answer (.objectInfo i.objectId) = .ok o ∧ c = .recordVote user o up ∧
      w.MayVote user o up

variable (w : World)

namespace ChangeRequest

open Change

/-- **Who gets a plan is entitled to its change.** -/
theorem entitled_of_plan {user : String} {q : ChangeRequest} {ch : Change}
    (h : w.result (q.plan user).run = .ok ch) : w.Entitled user ch.write q := by
  cases q with
  | addQuestion i =>
    obtain ⟨hp, rfl⟩ := (permitted_eq_ok w).mp h
    exact ⟨rfl, hp⟩
  | editQuestion id i =>
    obtain ⟨_, -, hp, rfl⟩ := (planQuestion_eq_ok w).mp h
    exact ⟨rfl, hp⟩
  | setStatus id status =>
    obtain ⟨act, ha, _, -, hp, rfl⟩ := (planStatus_eq_ok w).mp h
    refine ⟨rfl, ?_⟩
    cases status <;> cases ha
    · exact .inr ⟨rfl, hp⟩
    · exact .inl ⟨rfl, hp⟩
  | setPinned id pinned =>
    obtain ⟨_, -, hp, rfl⟩ := (planPinned_eq_ok w).mp h
    exact ⟨rfl, hp⟩
  | deleteQuestion id =>
    obtain ⟨_, -, hp, rfl⟩ := (planQuestion_eq_ok w).mp h
    exact ⟨rfl, hp⟩
  | addAnswer i =>
    obtain ⟨_, -, hp, rfl⟩ := (planAnswer_eq_ok w).mp h
    exact ⟨rfl, hp⟩
  | editAnswer id i =>
    obtain ⟨_, -, hp, rfl⟩ := (loaded_eq_ok w fun _ => permitted_eq_ok w).mp h
    exact ⟨rfl, hp⟩
  | acceptAnswer id =>
    obtain ⟨a, ha, q, hq, _, -, hp, rfl⟩ := (planAcceptance_eq_ok w).mp h
    exact ⟨a, q, ha.2, hq, rfl, hp⟩
  | deleteAnswer id =>
    obtain ⟨_, -, hp, rfl⟩ := (planAnswerDeletion_eq_ok w).mp h
    exact ⟨rfl, hp⟩
  | addComment i =>
    obtain ⟨_, -, q, -, hp, rfl⟩ := (planComment_eq_ok w).mp h
    exact ⟨q, rfl, hp⟩
  | deleteComment id =>
    obtain ⟨_, -, hp, rfl⟩ := (planCommentDeletion_eq_ok w).mp h
    exact ⟨rfl, hp⟩
  | addReport i =>
    obtain ⟨kind, -, _, -, hp, rfl⟩ := (planReport_eq_ok w).mp h
    exact ⟨kind, rfl, hp⟩
  | vote i up =>
    obtain ⟨o, ho, -, hv, rfl⟩ := (planVote_eq_ok w).mp h
    exact ⟨o, ho, rfl, ((Rank.checkVote_eq_true w).mp hv).2⟩

end ChangeRequest

/-! ## What is done -/

/-- **A planned change is one write**, and events only after it. -/
theorem Change.acts_carryOut (ch : Change) :
    ∃ events : List Event,
      w.acts ch.carryOut.run = .call (.write ch.write) :: events.map .offer := by
  have first : w.acts (Handler.ofFallible (Service.write ch.write)).run =
      [.call (.write ch.write)] := rfl
  rw [carryOut, ExceptT.run_bind, World.acts_bind, first]
  cases w.result (Handler.ofFallible (Service.write ch.write)).run with
  | error e => exact ⟨[], rfl⟩
  | ok reply =>
    dsimp only
    cases ch.event reply with
    | some e => exact ⟨[e], rfl⟩
    | none => exact ⟨[], rfl⟩

/-- What is done is one change that the user is entitled to by their request, and then events. -/
def World.OnlyEntitled (user : String) (q : ChangeRequest) (acts : List Effect) : Prop :=
  ∃ (c : Write) (events : List Event), w.Entitled user c q ∧
    acts = .call (.write c) :: events.map .offer

/-- A request for a change does nothing, or its body can be read, its caller is known, and the
change is one that the caller is entitled to. -/
theorem ChangeKind.acts_handle (k : ChangeKind) (c : Context) (r : Request) :
    w.acts (k.handle c r).run = [] ∨
      ∃ u q, c.caller = some u ∧ k.read r = .ok q ∧
        w.OnlyEntitled u.userId q (w.acts (k.handle c r).run) := by
  rw [handle, World.acts_bind_except w (Service.looks_known _), World.result_known]
  cases hq : k.read r with
  | error e => exact .inl rfl
  | ok q =>
    dsimp only
    rw [World.acts_bind_except w (Service.looks_known _), World.result_known]
    unfold Context.requireUser
    cases hu : c.caller with
    | none => exact .inl rfl
    | some u =>
      dsimp only
      rw [World.acts_bind_except w (ChangeRequest.looks_plan q)]
      cases hp : w.result (q.plan u.userId).run with
      | error e => exact .inl rfl
      | ok ch =>
        obtain ⟨events, h⟩ := ch.acts_carryOut w
        exact .inr ⟨u, q, rfl, rfl, ch.write, events, ChangeRequest.entitled_of_plan w hp, h⟩

/-! ## What is only looked up -/

namespace Search

open Service

/-- What a search can ask: the user that its query names, and the page of an accepted request, which
is counted. -/
def MayAsk (r : SearchRequest) : Effect → Prop
  | .call (.userByName _) | .count (.searchQuery _) => True
  | .call (.search _ page size order) =>
    r.fault? = none ∧ page = r.page ∧ size = r.size ∧ order = r.order
  | _ => False

theorem asks_filter? (r : SearchRequest) (q : Query) (asker : Option String) :
    (filter? q asker).run.Asks (MayAsk r) := by
  have hcall (name : String) : (call (.userByName name)).run.Asks (MayAsk r) :=
    ⟨trivial, fun _ => trivial⟩
  have hauthor (name : String) : (resolveAuthor name asker).run.Asks (MayAsk r) := by
    unfold resolveAuthor
    split
    · trivial
    · exact (hcall name).bind_except fun _ => trivial
  have hnumber (arg : String) : (number arg).run.Asks (MayAsk r) := by
    unfold number
    split <;> trivial
  obtain ⟨form, arg, words⟩ := q
  cases form with
  | author => exact (hauthor arg).bind_except fun _ => trivial
  | score | answerCount => exact (hnumber arg).bind_except fun _ => trivial
  | _ => trivial

/-- **Only an accepted request is searched for**, with its page, its size and its order. -/
theorem asks_search (r : SearchRequest) (asker : Option String) :
    (search r asker).run.Asks (MayAsk r) := by
  unfold search
  cases h : r.fault? with
  | some detail => trivial
  | none =>
    refine (asks_filter? r _ asker).bind_except fun found => ?_
    cases found with
    | none => trivial
    | some f =>
      have hcall : (call (.search f r.page r.size r.order)).run.Asks (MayAsk r) :=
        ⟨⟨h, rfl, rfl, rfl⟩, fun _ => trivial⟩
      exact hcall.bind_except fun _ => ⟨trivial, fun _ => trivial⟩

theorem looks_search (r : SearchRequest) (asker : Option String) :
    Looks (search r asker).run := by
  refine (asks_search r asker).mono fun op h => ?_
  unfold Effect.isAct
  split
  · exact h.elim
  · exact h.elim
  · rfl

end Search

namespace Endpoint

open Service

variable (c : Context) (r : Request)

theorem looks_permissions : Looks (permissions c r).run :=
  (looks_known _).bind_except fun _ => (looks_known _).bind_except fun _ =>
    (looks_known _).bind_except fun _ =>
      (Rank.looks_checkEach _ _ _).ofFallible.bind_except fun _ => looks_pure_except _

theorem looks_results : Looks (results c r).run :=
  (looks_known _).bind_except fun _ =>
    (Search.looks_search _ _).ofFallible.bind_except fun _ => looks_pure_except _

theorem looks_badgeList : Looks badgeList.run :=
  (looks_call rfl).ofFallible.bind_except fun _ => looks_pure_except _

theorem looks_awardList : Looks (awardList c r).run :=
  (looks_known _).bind_except fun _ =>
    (looks_call rfl).ofFallible.bind_except fun _ => looks_pure_except _

theorem acts_handle (e : Endpoint) :
    w.acts (e.handle c r) = match e with
      | .change k => w.acts (k.handle c r).run
      | _ => [] := by
  unfold handle
  cases e with
  | health => rfl
  | permission =>
    refine (w.acts_bind_eq_left ?_).trans (w.acts_eq_nil (looks_permissions c r))
    rintro (_ | _) <;> rfl
  | search =>
    refine (w.acts_bind_eq_left ?_).trans (w.acts_eq_nil (looks_results c r))
    rintro (_ | _) <;> rfl
  | badges =>
    refine (w.acts_bind_eq_left ?_).trans (w.acts_eq_nil looks_badgeList)
    rintro (_ | _) <;> rfl
  | awards =>
    refine (w.acts_bind_eq_left ?_).trans (w.acts_eq_nil (looks_awardList c r))
    rintro (_ | _) <;> rfl
  | change k =>
    refine w.acts_bind_eq_left ?_
    rintro (_ | _) <;> rfl

end Endpoint

namespace Server

variable (s : Server) (now : Int) (r : Request)

variable {r} in
theorem reply_eq {e : Endpoint} (he : r.endpoint? = some e) (c : Context) :
    reply c r = e.handle c r := by
  unfold Request.endpoint? at he
  simp only [Option.bind_eq_bind, Option.bind_eq_some_iff, Option.pure_def, Option.some.injEq] at he
  obtain ⟨⟨route, part⟩, hroute, endpoint, hendpoint, id, hid, rfl⟩ := he
  unfold reply
  simp only [hroute, hendpoint, hid]

theorem acts_reply (c : Context) :
    w.acts (reply c r) = match r.endpoint? with
      | some e => w.acts (e.handle c r)
      | none => [] := by
  unfold reply Request.endpoint?
  cases Route.ofPath? r.path with
  | none => rfl
  | some found =>
    obtain ⟨route, part⟩ := found
    cases he : route.endpoint? r.method with
    | none => simp [he]; rfl
    | some e =>
      cases hi : Text.Utf8.decode? (Text.Percent.decode part) with
      | none => simp [he, hi]; rfl
      | some id => simp [he, hi]

theorem acts_respond :
    w.acts (s.respond now r) = match s.authenticate now r with
      | .ok caller => w.acts (reply ⟨caller, r.language⟩ r)
      | .error _ => [] := by
  have after : ∀ p : Service Reply, w.acts (do
      let reply ← p
      let response := withoutBody r.method (reply.localize r.language)
      Service.count (.httpRequest r.method (pathLabel r) response.status)
      return response) = w.acts p := by
    intro p
    rw [World.acts_bind]
    exact List.append_nil _
  unfold respond
  cases s.authenticate now r with
  | error e => exact after _
  | ok caller => exact after _

theorem accepts_of_authenticate {u : Caller} (h : s.authenticate now r = .ok (some u)) :
    ∃ c, s.Accepts now r c ∧ c.sub = u.userId := by
  unfold authenticate at h
  cases hv : r.headerText? "authorization" with
  | none => simp [hv] at h
  | some value =>
    simp only [hv] at h
    split at h
    · next hs =>
      split at h
      · next c hc =>
        cases h
        exact ⟨c, ⟨value, hv, hs, hc⟩, rfl⟩
      · cases h
    · cases h

/-- **Nobody changes what they are not entitled to.** Whatever a request is and whatever the
repositories answer, the response changes nothing and offers no event, or the request carries an
accepted token and asks for a change; the response then makes one change, one that the user of the
token is entitled to by what was asked, and offers events only after it. -/
theorem respond_entitled :
    w.acts (s.respond now r) = [] ∨
      ∃ c k q, s.Accepts now r c ∧ r.endpoint? = some (.change k) ∧ k.read r = .ok q ∧
        w.OnlyEntitled c.sub q (w.acts (s.respond now r)) := by
  rw [acts_respond]
  cases ha : s.authenticate now r with
  | error e => exact .inl rfl
  | ok caller =>
    dsimp only
    rw [acts_reply]
    cases he : r.endpoint? with
    | none => exact .inl rfl
    | some e =>
      dsimp only
      rw [Endpoint.acts_handle]
      cases e with
      | change k =>
        refine (k.acts_handle w ⟨caller, r.language⟩ r).imp_right ?_
        rintro ⟨u, q, rfl, hq, hd⟩
        obtain ⟨c, hc, hu⟩ := accepts_of_authenticate s now r ha
        exact ⟨c, k, q, hc, rfl, hq, hu ▸ hd⟩
      | _ => exact .inl rfl

end Server

end Forum
