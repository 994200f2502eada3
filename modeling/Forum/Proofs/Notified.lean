import Forum.Proofs.Announcement
import Forum.Proofs.Results

/-!
# Who is notified

The creator of a question is told of a new answer, the creator of a question or an answer of a new
comment on it, and the creator of an answer of its acceptance. The event of the change carries all
that this takes. Nobody is told of an act of their own.

* `ofEvent?_of_subject`, `ofEvent?_eq_some`: what becomes of the subject of an event;
* `ChangeKind.isTold`: the requests that somebody is told of;
* `World.Addresses`: whom a request is told to, about which object, and why;
* **`subject_of_plan`**: the event of a planned change has this as its subject;
* **`respond_notifies`**: the notification that the event of a response gives rise to.
-/

namespace Forum

/-! ## Events and notifications -/

namespace NewNotification

variable {e : Event} {receiver object : String} {kind : NotificationKind}

theorem ofEvent?_of_subject (h : subject? e = some (receiver, object, kind)) :
    ofEvent? e = if receiver = "" ∨ receiver = e.userId then none
      else some ⟨receiver, e.userId, object, kind⟩ := by
  rw [ofEvent?, h]
  rfl

/-- **A notification** has a receiver, who is not the one who acted. -/
theorem ofEvent?_eq_some {n : NewNotification} :
    ofEvent? e = some n ↔ subject? e = some (n.userId, n.objectId, n.kind) ∧
      n.userId ≠ "" ∧ n.userId ≠ e.userId ∧ n.triggerUserId = e.userId := by
  constructor
  · intro h
    obtain ⟨⟨receiver, object, kind⟩, hs, -⟩ := Option.bind_eq_some_iff.mp h
    rw [ofEvent?_of_subject hs] at h
    split at h
    case isTrue => cases h
    case isFalse hno =>
      cases h
      exact ⟨hs, fun h => hno (.inl h), fun h => hno (.inr h), rfl⟩
  · rintro ⟨hs, hempty, hself, htrigger⟩
    rw [ofEvent?_of_subject hs, if_neg (by simp [hempty, hself]), ← htrigger]

theorem subject?_answer {question owner id user : String} {author : Option String} :
    subject? ((({ type := .answerCreate, userId := user } : Event).withQuestion question
      (some owner)).withAnswer id author) = some (owner, id, .answerTheQuestion) := rfl

/-- A comment on a question or an answer is the subject of its event, which names the creator of
what it is on, though it names the question of an answer too. -/
theorem subject?_comment {user id : String} {author : Option String} {o : ObjectInfo}
    (ho : o.kind = .question ∨ o.kind = .answer) :
    ∃ e, (Event.onObject? .commentCreate user o).map (·.withComment id author) = some e ∧
      e.userId = user ∧ subject? e = some (o.creator, id, .commentTheObject) := by
  unfold Event.onObject?
  rcases ho with ho | ho <;> rw [ho]
  · exact ⟨_, rfl, rfl, rfl⟩
  · cases o.questionId with
    | none => exact ⟨_, rfl, rfl, rfl⟩
    | some q => exact ⟨_, rfl, rfl, rfl⟩

theorem subject?_acceptance {question id owner user : String} {asker : Option String} :
    subject? ((({ type := .answerAccept, userId := user } : Event).withQuestion question
      asker).withAnswer id (some owner)) = some (owner, id, .acceptAnswer) := rfl

end NewNotification

/-! ## Requests that somebody is told of -/

/-- The requests that somebody is told of. -/
def ChangeKind.isTold : ChangeKind → Bool
  | addAnswer | addComment | acceptAnswer _ => true
  | _ => false

namespace World

variable (w : World)

open ChangeRequest in
/-- Whom a user's request is told to, about which object, and why: the creator of the question of a
new answer, of what a new comment is on, or of the accepted answer. -/
def Addresses (user receiver object : String) (kind : NotificationKind) : ChangeRequest → Prop
  | .addAnswer i => kind = .answerTheQuestion ∧
    (∃ q, w.answer (.objectInfo i.questionId) = .ok q ∧ receiver = q.creator) ∧
    w.answer (.write (.createAnswer ⟨i.questionId, user, i.content⟩)) = .ok object
  | .addComment i => kind = .commentTheObject ∧
    ∃ o, w.answer (.objectInfo i.objectId) = .ok o ∧ receiver = o.creator ∧
      ∃ q, commentQuestion? o = some q ∧
        w.answer (.write (.createComment ⟨user, i.objectId, q, i.content⟩)) = .ok object
  | .acceptAnswer id => kind = .acceptAnswer ∧
    (∃ a, w.answer (.objectInfo id) = .ok a ∧ receiver = a.creator) ∧ object = id
  | _ => False

end World

namespace ChangeKind

variable {k : ChangeKind} {r : Request} {q : ChangeRequest}

theorem read_eq_ok_of_isTold (hk : k.isTold = true) (h : k.read r = .ok q) :
    (∃ i, q = .addAnswer i) ∨ (∃ i, q = .addComment i) ∨ ∃ id, q = .acceptAnswer id := by
  cases k with
  | addAnswer =>
    obtain ⟨i, -, rfl⟩ := map_eq_ok.mp h
    exact .inl ⟨i, rfl⟩
  | addComment =>
    obtain ⟨i, -, rfl⟩ := map_eq_ok.mp h
    exact .inr (.inl ⟨i, rfl⟩)
  | acceptAnswer id =>
    cases h
    exact .inr (.inr ⟨id, rfl⟩)
  | _ => cases hk

end ChangeKind

namespace ChangeRequest

open Change NewNotification

variable {w : World} {user : String}

/-- **The event of a planned change** has whom it is told to as its subject. -/
theorem subject_of_plan {q : ChangeRequest} {ch : Change} {reply : ch.write.Reply}
    (hw : w.Consistent)
    (hq : (∃ i, q = .addAnswer i) ∨ (∃ i, q = .addComment i) ∨ ∃ id, q = .acceptAnswer id)
    (hp : w.result (q.plan user).run = .ok ch) (ha : w.answer (.write ch.write) = .ok reply) :
    ∃ e receiver object kind, ch.event reply = some e ∧ e.userId = user ∧
      w.Addresses user receiver object kind q ∧ subject? e = some (receiver, object, kind) := by
  rcases hq with ⟨i, rfl⟩ | ⟨i, rfl⟩ | ⟨id, rfl⟩
  · obtain ⟨question, hquestion, -, rfl⟩ := (planAnswer_eq_ok w).mp hp
    exact ⟨_, _, _, _, rfl, rfl, ⟨rfl, ⟨question, hquestion.2, rfl⟩, ha⟩, subject?_answer⟩
  · obtain ⟨o, ho, question, hquestion, -, rfl⟩ := (planComment_eq_ok w).mp hp
    have hkind : o.kind = .question ∨ o.kind = .answer :=
      ho.imp (fun ho => ho.kind_eq hw) fun ho => ho.kind_eq hw
    have hfound : w.answer (.objectInfo i.objectId) = .ok o := ho.elim And.right And.right
    obtain ⟨e, he, hu, hs⟩ : ∃ e, (Event.onObject? .commentCreate user o).map
        (·.withComment reply (some user)) = some e ∧ e.userId = user ∧
          subject? e = some (o.creator, reply, .commentTheObject) := subject?_comment hkind
    exact ⟨e, _, _, _, he, hu, ⟨rfl, o, hfound, rfl, question, hquestion, ha⟩, hs⟩
  · obtain ⟨a, haccepted, question, -, o, -, -, rfl⟩ := (planAcceptance_eq_ok w).mp hp
    exact ⟨_, _, _, _, rfl, rfl, ⟨rfl, ⟨a, haccepted.2, rfl⟩, rfl⟩, subject?_acceptance⟩

end ChangeRequest

namespace Server

open NewNotification

variable (w : World) (s : Server) (now : Int)

/-- **Who is notified.** In a world whose look-ups answer what object ids tell, a new answer, a new
comment or an acceptance that succeeds offers one event. It gives rise to a notification of the
creator of the question, of what the comment is on, or of the accepted answer, unless this is nobody
or the user who asks. No event at all gives rise to a notification of nobody, or of the one who
acted. -/
theorem respond_notifies :
    (∀ (r : Request) (k : ChangeKind), w.Consistent → r.endpoint? = some (.change k) →
      k.isTold = true → (w.result (s.respond now r)).status = 200 →
      ∃ claims q e receiver object kind, s.Accepts now r claims ∧ k.read r = .ok q ∧
        w.offers (s.respond now r) = [e] ∧ w.Addresses claims.sub receiver object kind q ∧
        ofEvent? e = if receiver = "" ∨ receiver = claims.sub then none
          else some ⟨receiver, claims.sub, object, kind⟩) ∧
    ∀ e n, ofEvent? e = some n → n.userId ≠ "" ∧ n.userId ≠ e.userId := by
  constructor
  · intro r k hw hk htold hstatus
    rcases respond_carried w s now hk with ⟨hno, -⟩ | ⟨-, claims, q, hc, hq, hcarried⟩
    · exact absurd hstatus hno
    · obtain ⟨ch, reply, hp, ha, hacts⟩ := hcarried
      obtain ⟨e, receiver, object, kind, he, hu, haddresses, hs⟩ :=
        ChangeRequest.subject_of_plan hw (ChangeKind.read_eq_ok_of_isTold htold hq) hp ha
      have hoffers : w.offers (s.respond now r) = [e] := by
        rw [World.offers_eq, hacts, he]
        rfl
      have hnotice := ofEvent?_of_subject hs
      rw [hu] at hnotice
      exact ⟨claims, q, e, receiver, object, kind, hc, hq, hoffers, haddresses, hnotice⟩
  · intro e n h
    obtain ⟨-, hempty, hself, -⟩ := ofEvent?_eq_some.mp h
    exact ⟨hempty, hself⟩

/-- A world where cat has answered a question of ben, and everybody is an administrator. -/
def oneAnswer : World where
  answer
    | .objectInfo id =>
      if id = "10010000000000001" then .ok { objectId := id, kind := .question, creator := "ben" }
      else if id = "10020000000000001" then
        .ok {
          objectId := id, kind := .answer, creator := "cat"
          questionId := some "10010000000000001" }
      else .error (.objectNotFound id)
    | .userById id => .ok (some ⟨id, id, id, 1, true, .normal⟩)
    | .write (.acceptAnswer _ _) => .ok ()
    | _ => .error (.internal "")
  accepts _ := true

/-- The request of ann to accept the answer. -/
def acceptance : Request where
  method := "POST"
  target := "/answer/api/v1/answer/10020000000000001/accept".toList
  headers := [("authorization", Text.Utf8.encode ("Bearer " ++ annsToken).toList)]

theorem status_acceptance : (oneAnswer.result (annsServer.respond 0 acceptance)).status = 200 := by
  rw [status_respond, authenticate_ann (by decide +kernel)]
  decide +kernel

/-- Ann accepts the answer of cat, and cat is told of it. -/
theorem respond_notifies_acceptance :
    oneAnswer.Consistent ∧
    acceptance.endpoint? = some (.change (.acceptAnswer "10020000000000001")) ∧
    (oneAnswer.result (annsServer.respond 0 acceptance)).status = 200 ∧
    (∃ claims e, annsServer.Accepts 0 acceptance claims ∧
      oneAnswer.offers (annsServer.respond 0 acceptance) = [e] ∧
      ofEvent? e = if "cat" = claims.sub then none
        else some ⟨"cat", claims.sub, "10020000000000001", .acceptAnswer⟩) := by
  have hw : oneAnswer.Consistent := by
    intro id o h
    change (if id = "10010000000000001" then Except.ok _
      else if id = "10020000000000001" then Except.ok _ else _) = _ at h
    split at h
    case isTrue hid =>
      cases h
      subst hid
      exact ⟨rfl, by decide +kernel⟩
    case isFalse =>
      split at h
      case isTrue hid =>
        cases h
        subst hid
        exact ⟨rfl, by decide +kernel⟩
      case isFalse => cases h
  have hk : acceptance.endpoint? = some (.change (.acceptAnswer "10020000000000001")) := by
    decide +kernel
  obtain ⟨claims, q, e, receiver, object, kind, hc, hq, he, hto, hnotice⟩ :=
    (respond_notifies oneAnswer annsServer 0).1 acceptance _ hw hk rfl status_acceptance
  obtain rfl : ChangeRequest.acceptAnswer "10020000000000001" = q := Except.ok.inj hq
  obtain ⟨rfl, ⟨a, ha, rfl⟩, rfl⟩ := hto
  have hcat : a.creator = "cat" := by
    have hfound : oneAnswer.answer (.objectInfo "10020000000000001") = .ok
        { objectId := "10020000000000001", kind := .answer, creator := "cat"
          questionId := some "10010000000000001" } := rfl
    rw [hfound] at ha
    exact congrArg ObjectInfo.creator (Except.ok.inj ha).symm
  rw [hcat] at hnotice
  exact ⟨hw, hk, status_acceptance, claims, e, hc, he, by simpa using hnotice⟩

end Server

end Forum
