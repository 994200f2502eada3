import Forum.Proofs.Batch
import Forum.Proofs.Envelopes
import Forum.Proofs.Notified

/-!
# The reputation that is needed

Whoever lacks the reputation for a change should be told the reputation that it needs. All are told,
but for those who vote.

* `World.Judged`, `World.Needs`: the action that a request is judged by, and what it needs;
* `World.TellsRequired`: what the data of a refusal should tell;
* `World.FailsOnly`: the failures that a program can have in a world;
* **`permit_tells`**, **`plan_tells`**: a permission tells what is needed, and so do plans;
* **`tellsRequired_iff`**: when a response tells what is needed.
-/

namespace Forum

/-! ## What is needed -/

namespace World

variable (w : World)

/-- The action that a request is judged by. A vote is judged by the kind of its object. -/
def Judged : ChangeRequest → Action → Prop
  | .addQuestion _, a => a = .questionAdd
  | .editQuestion _ _, a => a = .questionEdit
  | .setStatus _ .closed, a => a = .questionClose
  | .setStatus _ .open_, a => a = .questionReopen
  | .setStatus _ .deleted, _ => False
  | .setPinned _ true, a => a = .questionPin
  | .setPinned _ false, a => a = .questionUnpin
  | .deleteQuestion _, a => a = .questionDelete
  | .addAnswer _, a => a = .answerAdd
  | .editAnswer _ _, a => a = .answerEdit
  | .acceptAnswer _, a => a = .answerAccept
  | .deleteAnswer _, a => a = .answerDelete
  | .addComment _, a => a = .commentAdd
  | .deleteComment _, a => a = .commentDelete
  | .addReport _, a => a = .reportAdd
  | .vote i up, a =>
    ∃ o, w.answer (.objectInfo i.objectId) = .ok o ∧ Action.vote? o.kind up = some a

/-- The user exists, and this is the threshold of the action. The empty text is nobody. -/
def Threshold (user : String) (a : Action) (n : Int) : Prop :=
  user ≠ "" ∧ (∃ u, w.answer (.userById user) = .ok (some u)) ∧
    w.answer (.getInt a.settingKey) = .ok (some n)

/-- The reputation that the user needs for a request. -/
def Needs (user : String) (q : ChangeRequest) (n : Int) : Prop :=
  ∃ a, w.Judged q a ∧ w.Threshold user a n

/-- The data of a refusal tells the reputation that is needed, or that nothing is known of it. -/
def TellsRequired (user : String) (q : ChangeRequest) (data : Json) : Prop :=
  (∀ n, w.Needs user q n → data = .object [("requiredRank", .int n)]) ∧
    ((∀ n, ¬w.Needs user q n) → data = .object [("requiredRank", .null)])

end World

/-- What a refusal for want of reputation says of the reputation that is needed. -/
def ApiError.Says (R : Option Int → Prop) : ApiError → Prop
  | rankNotMet required => R required
  | _ => True

theorem ApiError.says_ofService (R : Option Int → Prop) (e : ServiceError) :
    (ApiError.ofService e).Says R := by
  cases e <;> trivial

/-! ## Failures -/

/-- In this world, a failure of the program has this property. -/
def World.FailsOnly (w : World) {α ε : Type} (P : ε → Prop) (p : ExceptT ε Service α) : Prop :=
  ∀ e, w.result p.run = .error e → P e

section Failures

variable {w : World} {α β ε : Type} {P Q : ε → Prop}

theorem World.FailsOnly.mono {p : ExceptT ε Service α} (hp : w.FailsOnly P p)
    (h : ∀ e, P e → Q e) : w.FailsOnly Q p := fun e he => h e (hp e he)

theorem World.failsOnly_pure (a : α) : w.FailsOnly P (pure a : ExceptT ε Service α) := by
  intro e he
  cases he

theorem World.failsOnly_throw {e : ε} (h : P e) :
    w.FailsOnly P (throw e : ExceptT ε Service α) := by
  intro e' he
  cases he
  exact h

theorem World.FailsOnly.bind {p : ExceptT ε Service α} {f : α → ExceptT ε Service β}
    (hp : w.FailsOnly P p) (hf : ∀ a, w.FailsOnly P (f a)) : w.FailsOnly P (p >>= f) := by
  intro e he
  rw [World.result_bind_except] at he
  cases hr : w.result p.run with
  | error e' =>
    rw [hr] at he
    cases he
    exact hp e hr
  | ok a =>
    rw [hr] at he
    exact hf a e he

theorem World.failsOnly_unless {c : Prop} [Decidable c] {e : ε} {rest : ExceptT ε Service α}
    (he : P e) (hrest : w.FailsOnly P rest) : w.FailsOnly P (do
      if c then throw e
      rest) := by
  dsimp only
  split
  · exact (failsOnly_throw he).bind fun _ => hrest
  · exact hrest

end Failures

namespace Handler

variable {w : World} {R : Option Int → Prop} {α : Type}

theorem failsOnly_ofFallible (p : Fallible α) : w.FailsOnly (ApiError.Says R) (ofFallible p) := by
  intro e he
  rw [World.result_ofFallible] at he
  cases hr : w.result p.run with
  | ok a =>
    rw [hr] at he
    cases he
  | error err =>
    rw [hr] at he
    cases he
    exact ApiError.says_ofService R err

theorem failsOnly_loadObject (id : String) (kind : ObjectKind) :
    w.FailsOnly (ApiError.Says R) (loadObject id kind) := by
  unfold loadObject
  split
  · exact failsOnly_ofFallible _
  · exact World.failsOnly_throw trivial

theorem required_of_exists {user object : String} {a : Action} {u : User} {c : PermissionCheck}
    {cs : List PermissionCheck} (hu : user ≠ "") (hfound : w.answer (.userById user) = .ok (some u))
    (h : w.result (Rank.evaluate user [a] object).run = .ok (c :: cs)) (hc : c.allowed = false) :
    w.answer (.getInt a.settingKey) = .ok c.requiredRank := by
  by_cases hexempt : w.Exempt u user object
  · rw [Rank.result_evaluate_exempt w [a] hu hfound hexempt] at h
    cases h
    cases hc
  · rw [Rank.result_evaluate_bound w [a] hu hfound hexempt, World.result_mapM] at h
    obtain ⟨c', _, hverdict, -, hcons⟩ := List.forall₂_cons_left_iff.mp (mapM_eq_ok_iff.mp h)
    obtain rfl : c = c' := (List.cons.inj hcons).1
    rw [Rank.result_byRank] at hverdict
    cases hread : w.answer (.getInt a.settingKey) with
    | error e =>
      rw [hread] at hverdict
      cases hverdict
    | ok required =>
      rw [hread] at hverdict
      cases hverdict
      rfl

/-- A verdict on someone who does not exist rests on nothing. -/
theorem required_of_not_exists {user object : String} {a : Action} {c : PermissionCheck}
    {cs : List PermissionCheck}
    (hnone : ¬(user ≠ "" ∧ ∃ u, w.answer (.userById user) = .ok (some u)))
    (h : w.result (Rank.evaluate user [a] object).run = .ok (c :: cs)) : c.requiredRank = none := by
  unfold Rank.evaluate at h
  by_cases hu : user = ""
  · rw [if_pos hu] at h
    cases h
    rfl
  · rw [if_neg hu, World.result_bind_except, World.result_call] at h
    cases hfound : w.answer (.userById user) with
    | error e =>
      rw [hfound] at h
      cases h
    | ok found =>
      cases found with
      | none =>
        rw [hfound] at h
        cases h
        rfl
      | some u => exact absurd ⟨hu, u, hfound⟩ hnone

theorem required_of_evaluate {user object : String} {a : Action} {c : PermissionCheck}
    {cs : List PermissionCheck} (h : w.result (Rank.evaluate user [a] object).run = .ok (c :: cs))
    (hc : c.allowed = false) (n : Int) : c.requiredRank = some n ↔ w.Threshold user a n := by
  by_cases hexists : user ≠ "" ∧ ∃ u, w.answer (.userById user) = .ok (some u)
  · obtain ⟨hu, u, hfound⟩ := hexists
    rw [World.Threshold, required_of_exists hu hfound h hc, Except.ok.injEq]
    simp [hu, hfound]
  · rw [required_of_not_exists hexists h]
    refine iff_of_false nofun fun hthreshold => hexists ⟨hthreshold.1, hthreshold.2.1⟩

/-- **A permission that is refused** tells the threshold, if the user exists. -/
theorem permit_tells (user : String) (a : Action) (object : String) :
    w.FailsOnly (ApiError.Says fun required => ∀ n, required = some n ↔ w.Threshold user a n)
      (permit user a object) := by
  intro e he
  rw [permit, World.result_bind_except, World.result_ofFallible, Rank.result_checkAll] at he
  cases hr : w.result (Rank.evaluate user [a] object).run with
  | error err =>
    rw [hr] at he
    cases he
    exact ApiError.says_ofService _ err
  | ok checks =>
    rw [hr] at he
    cases checks with
    | nil =>
      cases he
      trivial
    | cons c cs =>
      cases hc : c.allowed with
      | true => simp [hc] at he
      | false =>
        simp only [World.mapError_ok, hc] at he
        cases he
        exact required_of_evaluate hr hc

end Handler

/-! ## Plans -/

namespace ChangeRequest

open Handler

variable {w : World} {user id : String}

/-- The refusal says what the request needs. -/
def Tells (w : World) (user : String) (q : ChangeRequest) : ApiError → Prop :=
  ApiError.Says fun required => ∀ n, required = some n ↔ w.Needs user q n

section Steps

variable {q : ChangeRequest}

theorem permitted_tells {a : Action} {object : String} {planned : Change}
    (ha : ∀ b, w.Judged q b ↔ b = a) :
    w.FailsOnly (Tells w user q) (do permit user a object; return planned : Handler Change) := by
  have hneeds : ∀ n, w.Needs user q n ↔ w.Threshold user a n := by
    intro n
    simp only [World.Needs, ha, exists_eq_left]
  refine World.FailsOnly.bind ((permit_tells user a object).mono fun e he => ?_) fun _ =>
    World.failsOnly_pure _
  cases e with
  | rankNotMet required => exact fun n => (he n).trans (hneeds n).symm
  | _ => trivial

theorem loaded_tells {kind : ObjectKind} {rest : ObjectInfo → Handler Change}
    (hrest : ∀ o, w.FailsOnly (Tells w user q) (rest o)) :
    w.FailsOnly (Tells w user q) (do rest (← loadObject id kind)) :=
  (failsOnly_loadObject id kind).bind hrest

theorem failsOnly_questionOf {R : Option Int → Prop} (o : ObjectInfo) :
    w.FailsOnly (ApiError.Says R) (questionOf o id) := by
  unfold questionOf
  split
  · exact World.failsOnly_pure _
  · exact World.failsOnly_throw trivial

theorem failsOnly_loadCommentable {R : Option Int → Prop} :
    w.FailsOnly (ApiError.Says R) (loadCommentable id) := by
  unfold loadCommentable
  split
  · exact failsOnly_loadObject _ _
  · exact failsOnly_loadObject _ _
  · exact World.failsOnly_throw trivial

theorem failsOnly_reportable {R : Option Int → Prop} :
    w.FailsOnly (ApiError.Says R) (reportable id) := by
  unfold reportable
  split
  · exact World.failsOnly_pure _
  · exact World.failsOnly_pure _
  · exact World.failsOnly_pure _
  · exact World.failsOnly_throw trivial

end Steps

/-- **A plan that is refused** for want of reputation tells what is needed, unless it is a vote. -/
theorem plan_tells {q : ChangeRequest} (hq : ∀ i up, q ≠ .vote i up) :
    w.FailsOnly (Tells w user q) (q.plan user) := by
  cases q with
  | addQuestion i => exact permitted_tells fun _ => Iff.rfl
  | editQuestion id i => exact loaded_tells fun _ => permitted_tells fun _ => Iff.rfl
  | setStatus id status =>
    cases status with
    | open_ | closed => exact loaded_tells fun _ => permitted_tells fun _ => Iff.rfl
    | deleted => exact World.failsOnly_throw trivial
  | setPinned id pinned =>
    cases pinned <;> exact loaded_tells fun _ => permitted_tells fun _ => Iff.rfl
  | deleteQuestion id => exact loaded_tells fun _ => permitted_tells fun _ => Iff.rfl
  | addAnswer i => exact loaded_tells fun _ => permitted_tells fun _ => Iff.rfl
  | editAnswer id i => exact loaded_tells fun _ => permitted_tells fun _ => Iff.rfl
  | acceptAnswer id =>
    refine loaded_tells fun a => (failsOnly_questionOf a).bind fun _ => ?_
    exact loaded_tells fun _ => permitted_tells fun _ => Iff.rfl
  | deleteAnswer id => exact loaded_tells fun _ => permitted_tells fun _ => Iff.rfl
  | addComment i =>
    have hpermitted : ∀ planned : Change, w.FailsOnly (Tells w user (.addComment i))
        (do permit user .commentAdd ""; return planned : Handler Change) := fun _ =>
      permitted_tells fun _ => Iff.rfl
    refine failsOnly_loadCommentable.bind fun o => ?_
    dsimp only
    split
    · exact (World.failsOnly_pure _).bind fun _ => hpermitted _
    · exact (failsOnly_questionOf o).bind fun _ => hpermitted _
  | deleteComment id => exact loaded_tells fun _ => permitted_tells fun _ => Iff.rfl
  | addReport i =>
    refine failsOnly_reportable.bind fun _ => (failsOnly_ofFallible _).bind fun _ => ?_
    exact permitted_tells fun _ => Iff.rfl
  | vote i up => exact absurd rfl (hq i up)

/-- **A vote that is refused** tells nothing of what is needed. -/
theorem planVote_tells {i : VoteInput} {up : Bool} :
    w.FailsOnly (ApiError.Says (· = none)) (planVote user i up) := by
  refine (failsOnly_ofFallible _).bind fun o => World.failsOnly_unless trivial ?_
  exact (failsOnly_ofFallible _).bind fun _ => World.failsOnly_unless rfl (World.failsOnly_pure _)

end ChangeRequest

/-! ## Requests -/

section Inputs

variable {α : Type} {r : Request} {e : ApiError}

theorem Request.input_error {record : Json.Record α} (h : r.input record = .error e) :
    ∃ detail, e = .validation detail := by
  unfold input at h
  split at h
  · cases h
  · cases h
    exact ⟨_, rfl⟩

theorem Request.checkedInput_error {record : Json.Record α} {faults : α → List LengthFault}
    (h : r.checkedInput record faults = .error e) : ∃ detail, e = .validation detail := by
  unfold checkedInput at h
  cases hi : r.input record with
  | error e' =>
    rw [hi] at h
    cases h
    exact input_error hi
  | ok a =>
    rw [hi] at h
    change Handler.checked faults a = _ at h
    unfold Handler.checked at h
    split at h
    · cases h
    · cases h
      exact ⟨_, rfl⟩

theorem ChangeKind.read_error {k : ChangeKind} (h : k.read r = .error e) :
    ∃ detail, e = .validation detail := by
  cases k with
  | addQuestion | editQuestion | addAnswer | editAnswer | addComment | addReport | vote =>
    exact Request.checkedInput_error (map_eq_error.mp h)
  | setStatus | setPinned => exact Request.input_error (map_eq_error.mp h)
  | deleteQuestion | acceptAnswer | deleteAnswer | deleteComment => cases h

end Inputs

variable {w : World}

theorem ChangeKind.handle_rankNotMet {k : ChangeKind} {c : Context} {r : Request}
    {required : Option Int} (h : w.result (k.handle c r).run = .error (.rankNotMet required)) :
    ∃ u q, c.caller = some u ∧ k.read r = .ok q ∧
      w.result (q.plan u.userId).run = .error (.rankNotMet required) := by
  rw [handle, World.result_bind_except, World.result_known] at h
  cases hq : k.read r with
  | error e =>
    rw [hq] at h
    obtain ⟨detail, rfl⟩ := read_error hq
    cases h
  | ok q =>
    rw [hq] at h
    dsimp only at h
    rw [World.result_bind_except, World.result_known] at h
    unfold Context.requireUser at h
    cases hu : c.caller with
    | none =>
      rw [hu] at h
      cases h
    | some u =>
      rw [hu] at h
      dsimp only at h
      rw [World.result_bind_except] at h
      cases hp : w.result (q.plan u.userId).run with
      | error e =>
        rw [hp] at h
        cases h
        exact ⟨u, q, rfl, rfl, hp⟩
      | ok ch =>
        rw [hp] at h
        dsimp only at h
        rw [Change.result_carryOut] at h
        cases ha : w.answer (.write ch.write) with
        | ok reply =>
          rw [ha] at h
          cases h
        | error err =>
          rw [ha] at h
          have hsays := ApiError.says_ofService (fun _ => False) err
          rw [Except.error.inj h] at hsays
          exact hsays.elim

namespace World

variable {user : String} {q : ChangeRequest} {required : Option Int}

theorem rankNotMet_data_inj {a b : Option Int} :
    (ApiError.rankNotMet a).data = (ApiError.rankNotMet b).data ↔ a = b := by
  cases a <;> cases b <;> simp [ApiError.data, Json.object, Json.insert]

theorem tellsRequired_data_iff : w.TellsRequired user q (ApiError.rankNotMet required).data ↔
    (∀ n, w.Needs user q n → required = some n) ∧ ((∀ n, ¬w.Needs user q n) → required = none) := by
  have hsome : ∀ n, (ApiError.rankNotMet required).data = .object [("requiredRank", .int n)] ↔
      required = some n := fun n => rankNotMet_data_inj (b := some n)
  have hnone : (ApiError.rankNotMet required).data = .object [("requiredRank", .null)] ↔
      required = none := rankNotMet_data_inj (b := none)
  simp only [TellsRequired, hsome, hnone]

end World

namespace Server

variable (w : World) (s : Server) (now : Int) {r : Request}

theorem envelope_of_body {method msg : String} {l : Language} {e e' : Envelope}
    (h : (withoutBody method ((Reply.envelope e').localize l)).body = .json (e.toJson msg)) :
    e = e' := by
  unfold withoutBody at h
  split at h
  · cases h
  · exact (Envelope.toJson_inj (Body.json.inj h)).1.symm

theorem authenticate_error {e : ApiError} (h : s.authenticate now r = .error e) :
    ∃ detail, e = .unauthorized detail := by
  unfold authenticate at h
  split at h
  · cases h
  · split at h
    · split at h
      · cases h
      · cases h
        exact ⟨_, rfl⟩
    · cases h
      exact ⟨_, rfl⟩

theorem respond_rankNotMet {k : ChangeKind} (hk : r.endpoint? = some (.change k)) {e : Envelope}
    {msg : String} (hbody : (w.result (s.respond now r)).body = .json (e.toJson msg))
    (hreason : e.reason = "rank_fail_to_meet_the_condition") :
    (w.result (s.respond now r)).status = 403 ∧ ∃ claims q required, s.Accepts now r claims ∧
      k.read r = .ok q ∧ w.result (q.plan claims.sub).run = .error (.rankNotMet required) ∧
        e = (ApiError.rankNotMet required).envelope := by
  rw [result_respond] at hbody ⊢
  cases ha : s.authenticate now r with
  | error err =>
    rw [ha] at hbody
    obtain rfl := envelope_of_body hbody
    obtain ⟨detail, rfl⟩ := authenticate_error s now ha
    exact absurd hreason (by simp [ApiError.envelope, ApiError.reason])
  | ok caller =>
    rw [ha] at hbody
    dsimp only at hbody ⊢
    rw [result_reply w hk] at hbody ⊢
    cases hh : w.result (k.handle ⟨caller, r.language⟩ r).run with
    | ok v =>
      rw [hh] at hbody
      obtain rfl := envelope_of_body hbody
      exact absurd hreason (by simp [Envelope.success])
    | error err =>
      rw [hh] at hbody
      obtain rfl := envelope_of_body hbody
      cases err with
      | rankNotMet required =>
        obtain ⟨u, q, rfl, hq, hp⟩ := ChangeKind.handle_rankNotMet hh
        obtain ⟨claims, hc, hsub⟩ := accepts_of_authenticate s now r ha
        rw [status_withoutBody]
        exact ⟨rfl, claims, q, required, hc, hq, hsub ▸ hp, rfl⟩
      | _ => exact absurd hreason (by simp [ApiError.envelope, ApiError.reason])

/-- **Who is told what a change needs.** When the response to a request for a change is a refusal
for want of reputation, its status is 403 and the request is that of an accepted token. The refusal
should tell the reputation that is needed, which is the threshold of the action that the request is
judged by, if the user exists and the action has a threshold, and otherwise that nothing is known.
It does so exactly if the request is no vote or there is nothing to be known. -/
theorem tellsRequired_iff {k : ChangeKind} (hk : r.endpoint? = some (.change k)) {e : Envelope}
    {msg : String} (hbody : (w.result (s.respond now r)).body = .json (e.toJson msg))
    (hreason : e.reason = "rank_fail_to_meet_the_condition") :
    (w.result (s.respond now r)).status = 403 ∧ ∃ claims q, s.Accepts now r claims ∧
      k.read r = .ok q ∧ (w.TellsRequired claims.sub q e.data ↔
        (∀ i up, q ≠ .vote i up) ∨ ∀ n, ¬w.Needs claims.sub q n) := by
  obtain ⟨hstatus, claims, q, required, hc, hq, hp, rfl⟩ :=
    respond_rankNotMet w s now hk hbody hreason
  refine ⟨hstatus, claims, q, hc, hq, World.tellsRequired_data_iff.trans ?_⟩
  by_cases hvote : ∃ i up, q = .vote i up
  · obtain ⟨i, up, rfl⟩ := hvote
    obtain rfl : required = none := ChangeRequest.planVote_tells _ hp
    constructor
    · rintro ⟨hneeds, -⟩
      refine .inr fun n hn => ?_
      cases hneeds n hn
    · rintro (hno | hnothing)
      · exact absurd rfl (hno i up)
      · exact ⟨fun n hn => absurd hn (hnothing n), fun _ => rfl⟩
  · have hno : ∀ i up, q ≠ .vote i up := fun i up h => hvote ⟨i, up, h⟩
    have htells := ChangeRequest.plan_tells hno _ hp
    refine iff_of_true ⟨fun n => (htells n).mpr, fun hnothing => ?_⟩ (.inl hno)
    exact Option.eq_none_iff_forall_ne_some.mpr fun n h => hnothing n ((htells n).mp h)

/-- A world with a question of ben, where ann lacks the reputation to delete it or to vote on it. -/
def tenNeeded : World where
  answer
    | .objectInfo id => .ok { objectId := id, kind := .question, creator := "ben" }
    | .userById "ann" => .ok (some ⟨"ann", "ann", "Ann", 1, false, .normal⟩)
    | .userById _ => .ok none
    | .getInt "rank.question.delete" | .getInt "rank.question.vote_up" => .ok (some 10)
    | .getInt _ => .ok none
    | _ => .error (.internal "")
  accepts _ := true

/-- Ann is told that a deletion takes a reputation of 10. -/
theorem tellsRequired_iff_deletion :
    annsDeletion.endpoint? = some (.change (.deleteQuestion "10010000000000001")) ∧
    (tenNeeded.result (annsServer.respond 0 annsDeletion)).body = .json (Envelope.toJson
      ⟨403, "rank_fail_to_meet_the_condition", .object [("requiredRank", .int 10)]⟩
      "Reputation rank fail to meet the condition.") ∧
    (tenNeeded.result (annsServer.respond 0 annsDeletion)).status = 403 ∧
    ∃ claims q, annsServer.Accepts 0 annsDeletion claims ∧
      tenNeeded.TellsRequired claims.sub q (.object [("requiredRank", .int 10)]) := by
  have hbody : (tenNeeded.result (annsServer.respond 0 annsDeletion)).body = .json (Envelope.toJson
      ⟨403, "rank_fail_to_meet_the_condition", .object [("requiredRank", .int 10)]⟩
      "Reputation rank fail to meet the condition.") := by
    rw [result_respond, authenticate_ann header_annsDeletion]
    dsimp only
    rw [result_reply _ endpoint?_annsDeletion]
    rfl
  obtain ⟨hstatus, claims, q, hc, hq, htells⟩ :=
    tellsRequired_iff tenNeeded annsServer 0 endpoint?_annsDeletion hbody rfl
  obtain rfl : ChangeRequest.deleteQuestion "10010000000000001" = q := Except.ok.inj hq
  exact ⟨endpoint?_annsDeletion, hbody, hstatus, claims, _, hc, htells.mpr (.inl nofun)⟩

/-- Ann votes for the question. -/
def annsVote : Request :=
  annsRequest "POST" "/answer/api/v1/vote/up" "\x7b\"objectId\":\"10010000000000001\"\x7d"

theorem read_annsVote :
    ChangeKind.read annsVote (.vote true) = .ok (.vote ⟨"10010000000000001"⟩ true) := by
  have hread : (annsVote.checkedInput VoteInput.record VoteInput.faults).toOption.map
      VoteInput.objectId = some "10010000000000001" := by
    decide +kernel
  unfold ChangeKind.read
  cases h : annsVote.checkedInput VoteInput.record VoteInput.faults with
  | error e =>
    rw [h] at hread
    cases hread
  | ok i =>
    rw [h] at hread
    obtain rfl : i = ⟨"10010000000000001"⟩ := congrArg VoteInput.mk (Option.some.inj hread)
    rfl

/-- Ann is not told that a vote takes a reputation of 10. -/
theorem not_tellsRequired_vote :
    annsVote.endpoint? = some (.change (.vote true)) ∧
    ChangeKind.read annsVote (.vote true) = .ok (.vote ⟨"10010000000000001"⟩ true) ∧
    (tenNeeded.result (annsServer.respond 0 annsVote)).body = .json (Envelope.toJson
      ⟨403, "rank_fail_to_meet_the_condition", .object [("requiredRank", .null)]⟩
      "Reputation rank fail to meet the condition.") ∧
    tenNeeded.Needs "ann" (.vote ⟨"10010000000000001"⟩ true) 10 ∧
    ¬tenNeeded.TellsRequired "ann" (.vote ⟨"10010000000000001"⟩ true)
      (.object [("requiredRank", .null)]) := by
  have hk : annsVote.endpoint? = some (.change (.vote true)) := by decide +kernel
  have hneeds : tenNeeded.Needs "ann" (.vote ⟨"10010000000000001"⟩ true) 10 :=
    ⟨.questionVoteUp, ⟨_, rfl, rfl⟩, by decide, ⟨_, rfl⟩, rfl⟩
  refine ⟨hk, read_annsVote, ?_, hneeds, fun htells => ?_⟩
  · rw [result_respond, authenticate_ann (by decide +kernel)]
    dsimp only
    rw [result_reply _ hk, ChangeKind.handle, World.result_bind_except, World.result_known,
      read_annsVote]
    rfl
  · have hdata := htells.1 10 hneeds
    cases (World.rankNotMet_data_inj (a := none) (b := some 10)).mp hdata

end Server

end Forum
