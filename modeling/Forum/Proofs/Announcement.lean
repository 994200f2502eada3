import Forum.Proofs.Entitlement

/-!
# A change and the event that tells of it

A request for a change succeeds exactly if its write does, and then one event is offered. Whether
the event is accepted makes no difference. A vote taken back is no event.

* `World.Consistent`: look-ups of objects answer what the ids tell;
* `ChangeRequest.eventType?`, `World.Subject`: the event that belongs to a request, and the object
  that it is about;
* `World.Carried`, `World.Undone`: a plan that is carried out, and a change that is not made;
* `World.Told`, `World.Done`: a change that is told of;
* **`told_of_plan`**: a planned change is told of as it should be;
* **`handle_carried`**, **`respond_carried`**: a request is planned and carried out, or refused;
* **`respond_told`**: a response to a request for a change.
-/

namespace Forum

/-! ## The event of a request -/

namespace Event

variable {e : Event} {id creator : String}

/-- The event is about an object of this creator. -/
def About (e : Event) (id creator : String) : Prop :=
  e.targetId? = some id ∧ e.targetUser? = some creator

theorem about_withQuestion (ha : e.answerId = none) (hc : e.commentId = none) :
    (e.withQuestion id (some creator)).About id creator := by
  simp [About, withQuestion, targetId?, targetUser?, ha, hc]

theorem about_withAnswer (hc : e.commentId = none) :
    (e.withAnswer id (some creator)).About id creator := by
  simp [About, withAnswer, targetId?, targetUser?, hc]

theorem about_withComment : (e.withComment id (some creator)).About id creator := ⟨rfl, rfl⟩

theorem onObject?_eq_some (type : EventType) (user : String) {o : ObjectInfo}
    (hk : o.kind = .question ∨ o.kind = .answer ∨ o.kind = .comment) :
    ∃ e, onObject? type user o = some e ∧ e.type = type ∧ e.userId = user ∧
      e.About o.objectId o.creator := by
  unfold onObject?
  rcases hk with hk | hk | hk <;> rw [hk]
  · exact ⟨_, rfl, rfl, rfl, about_withQuestion rfl rfl⟩
  · cases o.questionId <;> exact ⟨_, rfl, rfl, rfl, about_withAnswer rfl⟩
  · cases o.questionId <;> exact ⟨_, rfl, rfl, rfl, about_withComment⟩

end Event

/-- The type of the event that tells of a change. -/
def ChangeRequest.eventType? : ChangeRequest → Option EventType
  | addQuestion _ => some .questionCreate
  | editQuestion _ _ => some .questionUpdate
  | setStatus _ status => (statusAct? status).map Prod.snd
  | setPinned _ pinned => some (if pinned then .questionPin else .questionUnpin)
  | deleteQuestion _ => some .questionDelete
  | addAnswer _ => some .answerCreate
  | editAnswer _ _ => some .answerUpdate
  | acceptAnswer _ => some .answerAccept
  | deleteAnswer _ => some .answerDelete
  | addComment _ => some .commentCreate
  | deleteComment _ => some .commentDelete
  | addReport _ => some .reportCreate
  | vote _ up => some (if up then .voteUp else .voteDown)

/-- The object that a request acts on, if it does not ask for a new one. -/
def ChangeRequest.object? : ChangeRequest → Option String
  | addQuestion _ | addAnswer _ | addComment _ => none
  | editQuestion id _ | setStatus id _ | setPinned id _ | deleteQuestion id => some id
  | editAnswer id _ | acceptAnswer id | deleteAnswer id | deleteComment id => some id
  | addReport i => some i.objectId
  | vote i _ => some i.objectId

namespace Write

/-- The id of something new. -/
def newId? : (c : Write) → c.Reply → Option String
  | createQuestion _, id | createAnswer _, id | createComment _, id => some id
  | _, _ => none

/-- A vote that was taken back. -/
def IsRetraction : (c : Write) → c.Reply → Prop
  | recordVote _ _ _, r => r.userVote = 0
  | _, _ => False

end Write

namespace World

variable (w : World)

/-- Look-ups of objects that do not fail answer the object of the id, of the kind that it tells. -/
def Consistent : Prop :=
  ∀ id o, w.answer (.objectInfo id) = .ok o →
    o.objectId = id ∧ ObjectKind.ofObjectId? id = some o.kind

/-- What a change is about, and who created it: the new object, which the user created, or else the
object that was asked to be changed, with its creator as looked up. -/
def Subject (user : String) (q : ChangeRequest) (c : Write) (reply : c.Reply)
    (id creator : String) : Prop :=
  match q.object? with
  | none => c.newId? reply = some id ∧ creator = user
  | some object => id = object ∧ ∃ o, w.answer (.objectInfo object) = .ok o ∧ creator = o.creator

/-- The event tells of the change. -/
def Told (user : String) (q : ChangeRequest) (c : Write) (reply : c.Reply)
    (event : Option Event) : Prop :=
  (c.IsRetraction reply → event = none) ∧
  (¬c.IsRetraction reply → ∃ e, event = some e ∧ q.eventType? = some e.type ∧ e.userId = user ∧
    ∃ id creator, w.Subject user q c reply id creator ∧ e.About id creator)

variable {w} {user : String} {q : ChangeRequest} {c : Write} {reply : c.Reply}

theorem told_some {e : Event} {id creator : String} (hc : ¬c.IsRetraction reply)
    (ht : q.eventType? = some e.type) (hu : e.userId = user)
    (hs : w.Subject user q c reply id creator) (he : e.About id creator) :
    w.Told user q c reply (some e) :=
  ⟨fun h => absurd h hc, fun _ => ⟨e, rfl, ht, hu, id, creator, hs, he⟩⟩

theorem Loads.kind_eq {id : String} {kind : ObjectKind} {o : ObjectInfo} (hw : w.Consistent)
    (h : w.Loads id kind o) : o.kind = kind := by
  have := (hw _ _ h.2).2
  rw [h.1] at this
  exact (Option.some.inj this).symm

end World

namespace ChangeRequest

open Change

variable {w : World} {user : String}

theorem told_onObject {q : ChangeRequest} {c : Write} {reply : c.Reply} {id : String}
    {type : EventType} {o : ObjectInfo} (hw : w.Consistent) (hc : ¬c.IsRetraction reply)
    (hq : q.object? = some id) (ht : q.eventType? = some type)
    (ho : w.answer (.objectInfo id) = .ok o)
    (hk : o.kind = .question ∨ o.kind = .answer ∨ o.kind = .comment) :
    w.Told user q c reply (Event.onObject? type user o) := by
  obtain ⟨e, he, rfl, hu, habout⟩ := Event.onObject?_eq_some type user hk
  rw [he]
  -- The event is about the object as looked up, which is the one that was asked for.
  refine World.told_some hc ht hu ?_ habout
  rw [World.Subject, hq]
  exact ⟨(hw _ _ ho).1, o, ho, rfl⟩

/-- **A planned change is told of**, whatever its write answers. -/
theorem told_of_plan {q : ChangeRequest} {ch : Change} (hw : w.Consistent)
    (h : w.result (q.plan user).run = .ok ch) (reply : ch.write.Reply) :
    w.Told user q ch.write reply (ch.event reply) := by
  cases q with
  | addQuestion i =>
    obtain ⟨-, rfl⟩ := (permitted_eq_ok w).mp h
    exact World.told_some not_false rfl rfl ⟨rfl, rfl⟩ (Event.about_withQuestion rfl rfl)
  | editQuestion id i =>
    obtain ⟨o, ho, -, rfl⟩ := (planQuestion_eq_ok w).mp h
    exact World.told_some not_false rfl rfl ⟨rfl, o, ho.2, rfl⟩ (Event.about_withQuestion rfl rfl)
  | setStatus id status =>
    obtain ⟨act, ha, o, ho, -, rfl⟩ := (planStatus_eq_ok w).mp h
    have ht : (setStatus id status).eventType? = some act.2 := by rw [eventType?, ha, Option.map_some]
    exact World.told_some not_false ht rfl ⟨rfl, o, ho.2, rfl⟩ (Event.about_withQuestion rfl rfl)
  | setPinned id pinned =>
    obtain ⟨o, ho, -, rfl⟩ := (planPinned_eq_ok w).mp h
    exact World.told_some not_false rfl rfl ⟨rfl, o, ho.2, rfl⟩ (Event.about_withQuestion rfl rfl)
  | deleteQuestion id =>
    obtain ⟨o, ho, -, rfl⟩ := (planQuestion_eq_ok w).mp h
    exact World.told_some not_false rfl rfl ⟨rfl, o, ho.2, rfl⟩ (Event.about_withQuestion rfl rfl)
  | addAnswer i =>
    obtain ⟨o, ho, -, rfl⟩ := (planAnswer_eq_ok w).mp h
    exact World.told_some not_false rfl rfl ⟨rfl, rfl⟩ (Event.about_withAnswer rfl)
  | editAnswer id i =>
    obtain ⟨a, ha, -, rfl⟩ := (loaded_eq_ok w fun _ => permitted_eq_ok w).mp h
    exact told_onObject hw not_false rfl rfl ha.2 (.inr (.inl (ha.kind_eq hw)))
  | acceptAnswer id =>
    obtain ⟨a, ha, q, -, o, -, -, rfl⟩ := (planAcceptance_eq_ok w).mp h
    exact World.told_some not_false rfl rfl ⟨rfl, a, ha.2, rfl⟩ (Event.about_withAnswer rfl)
  | deleteAnswer id =>
    obtain ⟨a, ha, -, rfl⟩ := (planAnswerDeletion_eq_ok w).mp h
    exact World.told_some not_false rfl rfl ⟨rfl, a, ha.2, rfl⟩ (Event.about_withAnswer rfl)
  | addComment i =>
    obtain ⟨o, ho, q, -, -, rfl⟩ := (planComment_eq_ok w).mp h
    have hk : o.kind = .question ∨ o.kind = .answer ∨ o.kind = .comment :=
      ho.elim (fun ho => .inl (ho.kind_eq hw)) fun ho => .inr (.inl (ho.kind_eq hw))
    obtain ⟨e, he, ht, hu, -⟩ := Event.onObject?_eq_some .commentCreate user hk
    dsimp only
    rw [he]
    exact World.told_some not_false (congrArg some ht.symm) hu ⟨rfl, rfl⟩ Event.about_withComment
  | deleteComment id =>
    obtain ⟨o, ho, -, rfl⟩ := (planCommentDeletion_eq_ok w).mp h
    exact World.told_some not_false rfl rfl ⟨rfl, o, ho.2, rfl⟩ Event.about_withComment
  | addReport i =>
    obtain ⟨kind, ⟨hid, hk⟩, o, ho, -, rfl⟩ := (planReport_eq_ok w).mp h
    have hkind : o.kind = kind := World.Loads.kind_eq hw ⟨hid, ho⟩
    exact told_onObject hw not_false rfl rfl ho (hkind ▸ hk)
  | vote i up =>
    obtain ⟨o, ho, -, hv, rfl⟩ := (planVote_eq_ok w).mp h
    obtain ⟨-, -, hk, -⟩ := (Rank.checkVote_eq_true w).mp hv
    by_cases hr : reply.userVote = 0
    · exact ⟨fun _ => if_pos hr, fun hn => absurd hr hn⟩
    · dsimp only
      rw [if_neg hr]
      exact told_onObject hw hr rfl rfl ho hk

end ChangeRequest

/-! ## A request is done or refused -/

/-- The change that an operation is. -/
def Effect.write? : Effect → Option Write
  | .call (.write c) => some c
  | _ => none

/-- The event that an operation offers. -/
def Effect.offer? : Effect → Option Event
  | .offer e => some e
  | _ => none

namespace World

variable (w : World) {α : Type}

/-- The changes that a program asks for. -/
def writes (p : Service α) : List Write := (w.asked p).filterMap Effect.write?

/-- The events that a program offers. -/
def offers (p : Service α) : List Event := (w.asked p).filterMap Effect.offer?

theorem filterMap_asked {β : Type} {f : Effect → Option β} (hf : ∀ e, e.isAct = false → f e = none)
    (p : Service α) : (w.asked p).filterMap f = (w.acts p).filterMap f := by
  rw [acts, List.filterMap_filter]
  refine congrArg (List.filterMap · _) (funext fun e => ?_)
  cases h : e.isAct with
  | true => exact (if_pos rfl).symm
  | false => exact hf e h

theorem writes_eq (p : Service α) : w.writes p = (w.acts p).filterMap Effect.write? := by
  refine w.filterMap_asked (fun e he => ?_) p
  unfold Effect.write?
  split
  · cases he
  · rfl

theorem offers_eq (p : Service α) : w.offers p = (w.acts p).filterMap Effect.offer? := by
  refine w.filterMap_asked (fun e he => ?_) p
  unfold Effect.offer?
  split
  · cases he
  · rfl

/-- What is done for a request that comes to nothing: no change, or one that fails. -/
def Undone (acts : List Effect) : Prop :=
  acts = [] ∨ ∃ c e, w.answer (.write c) = .error e ∧ acts = [.call (.write c)]

variable {w} in
theorem Undone.offers_eq_nil {acts : List Effect} (h : w.Undone acts) :
    acts.filterMap Effect.offer? = [] := by
  rcases h with rfl | ⟨c, e, -, rfl⟩ <;> rfl

variable {w} in
theorem Undone.ne_ok {acts : List Effect} (h : w.Undone acts) :
    ∀ c ∈ acts.filterMap Effect.write?, ∀ reply, w.answer (.write c) ≠ .ok reply := by
  rcases h with rfl | ⟨c, e, he, rfl⟩
  · intro c hc
    cases hc
  · intro c' hc' reply ha
    obtain rfl := List.mem_singleton.mp hc'
    rw [he] at ha
    cases ha

/-- What is done for a request that is carried out: the write of its plan, and then its event. -/
def Carried (user : String) (q : ChangeRequest) (acts : List Effect) : Prop :=
  ∃ (ch : Change) (reply : ch.write.Reply), w.result (q.plan user).run = .ok ch ∧
    w.answer (.write ch.write) = .ok reply ∧
    acts = .call (.write ch.write) :: (ch.event reply).toList.map .offer

/-- What is done for a request that is carried out: one change, and the event that tells of it. -/
def Done (user : String) (q : ChangeRequest) (acts : List Effect) : Prop :=
  ∃ (c : Write) (reply : c.Reply) (event : Option Event), w.answer (.write c) = .ok reply ∧
    w.Told user q c reply event ∧ acts = .call (.write c) :: event.toList.map .offer

variable {w} in
theorem Carried.done {user : String} {q : ChangeRequest} {acts : List Effect} (hw : w.Consistent)
    (h : w.Carried user q acts) : w.Done user q acts := by
  obtain ⟨ch, reply, hp, ha, rfl⟩ := h
  exact ⟨ch.write, reply, ch.event reply, ha, ChangeRequest.told_of_plan hw hp reply, rfl⟩

end World

variable (w : World)

namespace Change

theorem result_carryOut (ch : Change) :
    w.result ch.carryOut.run =
      ((w.answer (.write ch.write)).map ch.data).mapError ApiError.ofService := by
  have answered : w.result (Handler.ofFallible (Service.write ch.write)).run =
      (w.answer (.write ch.write)).mapError ApiError.ofService := w.result_ofFallible
  rw [carryOut, World.result_bind_except, answered]
  cases w.answer (.write ch.write) with
  | error e => rfl
  | ok reply =>
    dsimp only [World.mapError_ok, Except.map]
    cases ch.event reply <;> rfl

theorem acts_carryOut_eq (ch : Change) :
    w.acts ch.carryOut.run = .call (.write ch.write) :: match w.answer (.write ch.write) with
      | .ok reply => (ch.event reply).toList.map .offer
      | .error _ => [] := by
  have first : w.acts (Handler.ofFallible (Service.write ch.write)).run =
      [.call (.write ch.write)] := rfl
  have answered : w.result (Handler.ofFallible (Service.write ch.write)).run =
      (w.answer (.write ch.write)).mapError ApiError.ofService := w.result_ofFallible
  rw [carryOut, ExceptT.run_bind, World.acts_bind, first, answered]
  cases w.answer (.write ch.write) with
  | error e => rfl
  | ok reply =>
    dsimp only [World.mapError_ok]
    cases ch.event reply <;> rfl

end Change

/-- **A request for a change** is refused or fails, or its caller is known and it is carried out. -/
theorem ChangeKind.handle_carried (k : ChangeKind) (c : Context) (r : Request) :
    (∃ e, w.result (k.handle c r).run = .error e) ∧ w.Undone (w.acts (k.handle c r).run) ∨
    (∃ data, w.result (k.handle c r).run = .ok data) ∧ ∃ u q, c.caller = some u ∧
      k.read r = .ok q ∧ w.Carried u.userId q (w.acts (k.handle c r).run) := by
  rw [handle, World.acts_bind_except w (Service.looks_known _), World.result_bind_except,
    World.result_known]
  cases hq : k.read r with
  | error e => exact .inl ⟨⟨e, rfl⟩, .inl rfl⟩
  | ok q =>
    dsimp only
    rw [World.acts_bind_except w (Service.looks_known _), World.result_bind_except,
      World.result_known]
    unfold Context.requireUser
    cases hu : c.caller with
    | none => exact .inl ⟨⟨_, rfl⟩, .inl rfl⟩
    | some u =>
      dsimp only
      rw [World.acts_bind_except w (ChangeRequest.looks_plan q), World.result_bind_except]
      cases hp : w.result (q.plan u.userId).run with
      | error e => exact .inl ⟨⟨e, rfl⟩, .inl rfl⟩
      | ok ch =>
        dsimp only
        rw [Change.acts_carryOut_eq, Change.result_carryOut]
        cases ha : w.answer (.write ch.write) with
        | error e => exact .inl ⟨⟨_, rfl⟩, .inr ⟨ch.write, e, ha, rfl⟩⟩
        | ok reply =>
          exact .inr ⟨⟨_, rfl⟩, u, q, rfl, rfl, ch, reply, hp, ha, rfl⟩

/-! ## Responses -/

/-- The status of a reply. -/
def Reply.status : Reply → Nat
  | envelope e => e.status
  | plain r => r.status

@[simp] theorem Reply.status_localize (l : Language) (r : Reply) :
    (r.localize l).status = r.status := by
  cases r <;> rfl

theorem ApiError.status_envelope_ne (e : ApiError) : e.envelope.status ≠ 200 := by
  cases e <;> simp [envelope, Envelope.status, status]

namespace Server

variable (s : Server) (now : Int) (r : Request)

@[simp] theorem status_withoutBody (method : String) (response : Response) :
    (withoutBody method response).status = response.status := by
  unfold withoutBody
  split <;> rfl

theorem result_respond :
    w.result (s.respond now r) = withoutBody r.method (Reply.localize r.language
      (match s.authenticate now r with
        | .ok caller => w.result (reply ⟨caller, r.language⟩ r)
        | .error e => .envelope e.envelope)) := by
  unfold respond
  cases s.authenticate now r <;> exact w.result_bind _ _

theorem status_respond :
    (w.result (s.respond now r)).status = match s.authenticate now r with
      | .ok caller => (w.result (reply ⟨caller, r.language⟩ r)).status
      | .error e => e.envelope.status := by
  rw [result_respond, status_withoutBody, Reply.status_localize]
  cases s.authenticate now r <;> rfl

variable {r}

theorem result_reply {k : ChangeKind} (hk : r.endpoint? = some (.change k)) (c : Context) :
    w.result (reply c r) = match w.result (k.handle c r).run with
      | .ok v => .envelope (.success v)
      | .error e => .envelope e.envelope := by
  rw [reply_eq hk]
  unfold Endpoint.handle
  rw [World.result_bind]
  cases w.result (k.handle c r).run <;> rfl

/-- **A response to a request for a change**: the request is refused or comes to nothing, or it is
that of an accepted token, and it is carried out. -/
theorem respond_carried {k : ChangeKind} (hk : r.endpoint? = some (.change k)) :
    (w.result (s.respond now r)).status ≠ 200 ∧ w.Undone (w.acts (s.respond now r)) ∨
    (w.result (s.respond now r)).status = 200 ∧ ∃ c q, s.Accepts now r c ∧ k.read r = .ok q ∧
      w.Carried c.sub q (w.acts (s.respond now r)) := by
  rw [status_respond, acts_respond]
  cases ha : s.authenticate now r with
  | error e => exact .inl ⟨e.status_envelope_ne, .inl rfl⟩
  | ok caller =>
    dsimp only
    rw [result_reply w hk, acts_reply, hk]
    dsimp only
    rw [Endpoint.acts_handle]
    dsimp only
    rcases k.handle_carried w ⟨caller, r.language⟩ r with
      ⟨⟨e, he⟩, hundone⟩ | ⟨⟨data, hdata⟩, u, q, rfl, hq, hcarried⟩
    · rw [he]
      exact .inl ⟨e.status_envelope_ne, hundone⟩
    · obtain ⟨c, hc, hu⟩ := accepts_of_authenticate s now r ha
      rw [hdata]
      exact .inr ⟨rfl, c, q, hc, hq, hu ▸ hcarried⟩

/-- **A change is made exactly if the reply says so, and then it is told of once.** In a world whose
look-ups answer what object ids tell, the response to a request for a change has the status 200
exactly if its write succeeds, and offers no event otherwise. If it does, the request carries an
accepted token, and one event is offered: of the type that belongs to the request, on behalf of the
user of the token, about the object that was asked to be changed or that is new. Only a vote taken
back has no event. It makes no difference whether the event is accepted. -/
theorem respond_told (hw : w.Consistent) {k : ChangeKind} (hk : r.endpoint? = some (.change k)) :
    ((w.result (s.respond now r)).status = 200 ↔
      ∃ c ∈ w.writes (s.respond now r), ∃ reply, w.answer (.write c) = .ok reply) ∧
    ((w.result (s.respond now r)).status ≠ 200 → w.offers (s.respond now r) = []) ∧
    ∀ c ∈ w.writes (s.respond now r), ∀ reply, w.answer (.write c) = .ok reply →
      ∃ claims q event, s.Accepts now r claims ∧ k.read r = .ok q ∧
        w.offers (s.respond now r) = event.toList ∧ w.Told claims.sub q c reply event := by
  rw [World.writes_eq, World.offers_eq]
  rcases respond_carried w s now hk with
    ⟨hstatus, hundone⟩ | ⟨hstatus, claims, q, hc, hq, hcarried⟩
  · refine ⟨⟨fun h => absurd h hstatus, ?_⟩, fun _ => hundone.offers_eq_nil, ?_⟩
    · rintro ⟨c, hc, reply, ha⟩
      exact absurd ha (hundone.ne_ok c hc reply)
    · intro c hc reply ha
      exact absurd ha (hundone.ne_ok c hc reply)
  · obtain ⟨c, reply, event, ha, htold, hacts⟩ := hcarried.done hw
    have hwrites : (Effect.call (.write c) :: event.toList.map .offer).filterMap Effect.write? =
        [c] := by
      cases event <;> rfl
    have hoffers : (Effect.call (.write c) :: event.toList.map .offer).filterMap Effect.offer? =
        event.toList := by
      cases event <;> rfl
    rw [hacts, hwrites, hoffers]
    refine ⟨⟨fun _ => ⟨c, List.mem_singleton_self c, reply, ha⟩, fun _ => hstatus⟩,
      fun h => absurd hstatus h, ?_⟩
    intro c' hc' reply' h
    obtain rfl := List.mem_singleton.mp hc'
    obtain rfl : reply = reply' := Except.ok.inj (ha.symm.trans h)
    exact ⟨claims, q, event, hc, hq, rfl, htold⟩

/-- A world with one question, where everybody is an administrator and no event is accepted. -/
def oneQuestion : World where
  answer
    | .objectInfo id =>
      if id = "10010000000000001" then .ok { objectId := id, kind := .question, creator := "ben" }
      else .error (.objectNotFound id)
    | .userById id => .ok (some ⟨id, id, id, 1, true, .normal⟩)
    | .write (.deleteQuestion _) => .ok ()
    | _ => .error (.internal "")
  accepts _ := false

/-- A server that has issued a token to ann. -/
def annsServer : Server := ⟨⟨"k", "i", 100⟩⟩

/-- The token of ann. -/
def annsToken : String :=
  "eyJ0eXAiOiJKV1QiLCJhbGciOiJIUzI1NiJ9." ++
    "eyJzdWIiOiJhbm4iLCJ1c2VybmFtZSI6ImFubiIsImlhdCI6MCwiZXhwIjoxMDAsImlzcyI6ImkifQ." ++
    "1QL8WsMUvrOmW__tjW4uXtqcH9JnfIhAZ73yOlcBMhs"

/-- A request of ann. -/
def annsRequest (method target body : String) : Request where
  method := method
  target := target.toList
  headers := [("authorization", Text.Utf8.encode ("Bearer " ++ annsToken).toList),
    ("content-type", Text.Utf8.encode "application/json".toList)]
  body := Text.Utf8.encode body.toList

theorem verify_ann : annsServer.key.verify 0
    (String.ofList (Text.trim (("Bearer " ++ annsToken).toList.drop scheme.length))) =
      .ok { sub := "ann", username := "ann", iat := 0, exp := 100, iss := "i" } := by
  have hverify : (annsServer.key.verify 0
      (String.ofList (Text.trim (("Bearer " ++ annsToken).toList.drop scheme.length)))).toOption =
        some { sub := "ann", username := "ann", iat := 0, exp := 100, iss := "i" } := by
    decide +kernel
  cases hclaims : annsServer.key.verify 0
      (String.ofList (Text.trim (("Bearer " ++ annsToken).toList.drop scheme.length))) with
  | error e =>
    rw [hclaims] at hverify
    cases hverify
  | ok claims =>
    rw [hclaims] at hverify
    exact congrArg Except.ok (Option.some.inj hverify)

section Ann

variable {r : Request}
  (h : r.headerText? "authorization" = some ("Bearer " ++ annsToken).toList)

include h

theorem authenticate_ann : annsServer.authenticate 0 r = .ok (some ⟨"ann", "ann"⟩) := by
  have hscheme : scheme.isPrefixOf ("Bearer " ++ annsToken).toList = true := by decide +kernel
  rw [authenticate, h]
  dsimp only
  rw [if_pos hscheme, verify_ann]

theorem sub_of_accepts_ann {claims : Claims} (hc : annsServer.Accepts 0 r claims) :
    claims.sub = "ann" := by
  obtain ⟨value, hvalue, -, hverify⟩ := hc
  obtain rfl := Option.some.inj (h.symm.trans hvalue)
  rw [verify_ann] at hverify
  exact congrArg Claims.sub (Except.ok.inj hverify).symm

end Ann

/-- Ann asks to delete the question. -/
def annsDeletion : Request := annsRequest "DELETE" "/answer/api/v1/question/10010000000000001" ""

/-- Somebody without a token asks for the same. -/
def nobodysDeletion : Request := { annsDeletion with headers := [] }

theorem consistent_oneQuestion : oneQuestion.Consistent := by
  intro id o h
  change (if id = "10010000000000001" then Except.ok _ else _) = _ at h
  split at h
  · next hid =>
    cases h
    subst hid
    exact ⟨rfl, by decide +kernel⟩
  · cases h

theorem endpoint?_annsDeletion :
    annsDeletion.endpoint? = some (.change (.deleteQuestion "10010000000000001")) := by
  decide +kernel

theorem header_annsDeletion :
    annsDeletion.headerText? "authorization" = some ("Bearer " ++ annsToken).toList := by
  decide +kernel

theorem status_annsDeletion :
    (oneQuestion.result (annsServer.respond 0 annsDeletion)).status = 200 := by
  rw [status_respond, authenticate_ann header_annsDeletion]
  decide +kernel

theorem writes_annsDeletion : oneQuestion.writes (annsServer.respond 0 annsDeletion) =
    [.deleteQuestion "10010000000000001"] := by
  rw [World.writes_eq, acts_respond, authenticate_ann header_annsDeletion]
  dsimp only
  rw [acts_reply, endpoint?_annsDeletion]
  dsimp only
  rw [Endpoint.acts_handle]
  rfl

/-- Nobody deletes the question of ben without a token, and nothing is told of. When ann deletes it,
it is told of once, although the event is not accepted. -/
theorem respond_told_deletion :
    oneQuestion.Consistent ∧
    nobodysDeletion.endpoint? = some (.change (.deleteQuestion "10010000000000001")) ∧
    (oneQuestion.result (annsServer.respond 0 nobodysDeletion)).status = 401 ∧
    (¬∃ c ∈ oneQuestion.writes (annsServer.respond 0 nobodysDeletion),
      ∃ reply, oneQuestion.answer (.write c) = .ok reply) ∧
    oneQuestion.offers (annsServer.respond 0 nobodysDeletion) = [] ∧
    annsDeletion.endpoint? = some (.change (.deleteQuestion "10010000000000001")) ∧
    (oneQuestion.result (annsServer.respond 0 annsDeletion)).status = 200 ∧
    (∃ c ∈ oneQuestion.writes (annsServer.respond 0 annsDeletion),
      c = .deleteQuestion "10010000000000001" ∧
      ∃ reply, oneQuestion.answer (.write c) = .ok reply) ∧
    ∃ claims e, annsServer.Accepts 0 annsDeletion claims ∧ claims.sub = "ann" ∧
      oneQuestion.offers (annsServer.respond 0 annsDeletion) = [e] ∧
      oneQuestion.accepts e = false ∧ e.type = .questionDelete ∧ e.userId = "ann" ∧
      e.About "10010000000000001" "ben" := by
  have hk : nobodysDeletion.endpoint? = some (.change (.deleteQuestion "10010000000000001")) := by
    decide +kernel
  have hrefused : (oneQuestion.result (annsServer.respond 0 nobodysDeletion)).status = 401 := by
    decide +kernel
  have hnot : (oneQuestion.result (annsServer.respond 0 nobodysDeletion)).status ≠ 200 := by
    rw [hrefused]
    decide
  obtain ⟨hundone, hnone, -⟩ := respond_told oneQuestion annsServer 0 consistent_oneQuestion hk
  obtain ⟨hdone, -, htells⟩ :=
    respond_told oneQuestion annsServer 0 consistent_oneQuestion endpoint?_annsDeletion
  obtain ⟨c, hc, reply, hreply⟩ := hdone.mp status_annsDeletion
  obtain ⟨claims, q, event, hclaims, hq, hoffers, htold⟩ := htells c hc reply hreply
  obtain rfl : ChangeRequest.deleteQuestion "10010000000000001" = q := Except.ok.inj hq
  obtain rfl : c = .deleteQuestion "10010000000000001" := by
    rw [writes_annsDeletion] at hc
    exact List.mem_singleton.mp hc
  -- A deletion is no vote that could be taken back, so there is an event.
  obtain ⟨e, rfl, htype, huser, id, creator, ⟨rfl, o, ho, rfl⟩, habout⟩ := htold.2 not_false
  obtain rfl : { objectId := "10010000000000001", kind := .question, creator := "ben" } = o :=
    Except.ok.inj ho
  have hsub := sub_of_accepts_ann header_annsDeletion hclaims
  exact ⟨consistent_oneQuestion, hk, hrefused, mt hundone.mpr hnot, hnone hnot,
    endpoint?_annsDeletion, status_annsDeletion, ⟨_, hc, rfl, reply, hreply⟩, claims, e, hclaims,
    hsub, hoffers, rfl, (Option.some.inj htype).symm, huser.trans hsub, habout⟩

end Server

end Forum
