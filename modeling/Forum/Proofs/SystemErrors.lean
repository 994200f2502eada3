import Forum.Proofs.Envelopes
import Forum.Proofs.Plan
import Mathlib.Data.List.Forall2

/-!
# Replies tell nothing of system errors

A call can fail with an error of the system, such as one of the database. Which error it was makes
no difference to a reply: a request then fails as unknown, or it goes on as if nothing were known of
what was looked up.

* `ServiceError.IsSystem`, `Effect.Alike`, `Script.Alike`: answers that differ only in system errors;
* `Service.Hides`: a program ends at a system error, or goes on no matter which it was;
* `Program.DecidedBy`: an exchange after which the end of a program is settled, which was open;
* **`Hides.result_eq`**: what becomes of a program that hides system errors;
* **`hides_respond`**: a response hides them;
* **`respond_hides_system_errors`**: so it is the same whichever they are, and tells nothing of them.
-/

namespace Forum

/-! ## Answers that differ only in system errors -/

/-- An error of what the service runs on, with any detail. -/
def ServiceError.IsSystem : ServiceError → Prop
  | database _ | serialization _ | infrastructure _ | internal _ => True
  | _ => False

/-- Two answers that are equal or both failures of the system. -/
def Effect.Alike : (op : Effect) → op.Answer → op.Answer → Prop
  | .call _, a, b => a = b ∨ ∃ e e', a = .error e ∧ b = .error e' ∧ e.IsSystem ∧ e'.IsSystem
  | .count _, a, b => a = b
  | .offer _, a, b => a = b

/-- Exchanges of one operation with such answers. -/
inductive Exchange.Alike : Exchange Effect.Answer → Exchange Effect.Answer → Prop
  | intro {op : Effect} {a b : op.Answer} (h : op.Alike a b) : Alike ⟨op, a⟩ ⟨op, b⟩

/-- The call of an exchange has failed with a system error. -/
def Exchange.IsFault : Exchange Effect.Answer → Prop
  | ⟨.call _, .error e⟩ => e.IsSystem
  | _ => False

/-- Two worlds that answer alike whenever all before was alike. -/
def Script.Alike (s s' : Script Effect.Answer) : Prop :=
  ∀ t t', List.Forall₂ Exchange.Alike t t' → ∀ op : Effect, op.Alike (s t op) (s' t' op)

/-! ## What decides the end of a program -/

namespace Program

variable {Op : Type} {Ans : Op → Type} {α : Type}

/-- After these exchanges the program can end only like this. -/
def Settled (p : Program Op Ans α) (t : Transcript Ans) (a : α) : Prop :=
  ∀ rest b, p.Plays (t ++ rest) b → b = a

/-- An exchange decides the end of a program: before it other ends are possible, and after it none
are. -/
structure DecidedBy (p : Program Op Ans α) (before : Transcript Ans) (x : Exchange Ans) (a : α) :
    Prop where
  plays : ∃ after, p.Plays (before ++ x :: after) a
  settled : p.Settled (before ++ [x]) a
  wasOpen : ¬p.Settled before a

variable {op : Op} {next : Ans op → Program Op Ans α} {r : Ans op} {t : Transcript Ans}
  {x : Exchange Ans} {a : α}

@[simp] theorem plays_ask_cons :
    (ask op next).Plays (⟨op, r⟩ :: t) a ↔ (next r).Plays t a := by
  constructor
  · rintro ⟨r', rest, h, hplays⟩
    cases h
    exact hplays
  · intro h
    exact ⟨r, t, rfl, h⟩

theorem DecidedBy.tail (h : (ask op next).DecidedBy (⟨op, r⟩ :: t) x a) :
    (next r).DecidedBy t x a where
  plays := h.plays.imp fun _ => plays_ask_cons.mp
  settled rest b hb := h.settled rest b (plays_ask_cons.mpr hb)
  wasOpen hsettled := h.wasOpen fun rest b hb => hsettled rest b (plays_ask_cons.mp hb)

end Program

/-! ## Programs that hide system errors -/

namespace Service

variable {α β ε : Type} {R : α → Prop} {S : β → Prop}

/-- How an operation that fails with a system error goes on: the program ends at once in one of some
ways; or it does not matter which error it was. In the latter case no answer at all would have
mattered, or the program can still end in one of these ways. -/
def Covers (R : α → Prop) : (op : Effect) → (op.Answer → Service α) → Prop
  | .call _, next =>
    (∀ e : ServiceError, e.IsSystem → ∃ a, R a ∧ next (.error e) = pure a) ∨
      ∃ q, (∀ e : ServiceError, e.IsSystem → next (.error e) = q) ∧
        ((∀ r, next r = q) ∨ ∃ t a, R a ∧ q.Plays t a)
  | _, _ => True

/-- A program that hides system errors in the ways in which it ends at them. -/
def Hides (R : α → Prop) : Service α → Prop
  | .done _ => True
  | .ask op next => (∀ r, Hides R (next r)) ∧ Covers R op next

theorem hides_pure (a : α) : Hides R (pure a : Service α) := trivial

theorem Covers.bind {op : Effect} {next : op.Answer → Service α} {k : α → Service β}
    (h : Covers R op next) (hk : ∀ a, R a → ∃ b, S b ∧ k a = pure b) :
    Covers S op fun r => next r >>= k := by
  cases op with
  | count m => trivial
  | offer e => trivial
  | call c =>
    rcases h with hends | ⟨q, hq, hopen⟩
    · refine .inl fun e he => ?_
      obtain ⟨a, ha, hnext⟩ := hends e he
      obtain ⟨b, hb, hka⟩ := hk a ha
      exact ⟨b, hb, (congrArg (· >>= k) hnext).trans hka⟩
    · refine .inr ⟨q >>= k, fun e he => congrArg (· >>= k) (hq e he),
        hopen.imp (fun h r => congrArg (· >>= k) (h r)) ?_⟩
      rintro ⟨t, a, ha, hplays⟩
      obtain ⟨b, hb, hka⟩ := hk a ha
      have hend : (k a).Plays [] b := hka ▸ ⟨rfl, rfl⟩
      exact ⟨t, b, hb, Program.plays_bind.mpr
        ⟨t, a, [], hplays, hend, (List.append_nil t).symm⟩⟩

/-- With one way to end, it never matters which error it was. -/
theorem Covers.exists_same {a : α} {c : Call} {next : (Effect.call c).Answer → Service α}
    (h : Covers (· = a) (.call c) next) :
    ∃ q, (∀ e : ServiceError, e.IsSystem → next (.error e) = q) ∧
      ((∀ r, next r = q) ∨ ∃ t, q.Plays t a) := by
  rcases h with hends | ⟨q, hq, hopen⟩
  · refine ⟨pure a, fun e he => ?_, .inr ⟨[], rfl, rfl⟩⟩
    obtain ⟨_, rfl, hnext⟩ := hends e he
    exact hnext
  · refine ⟨q, hq, hopen.imp id ?_⟩
    rintro ⟨t, _, rfl, hplays⟩
    exact ⟨t, hplays⟩

/-- **A sequence of programs that hide system errors**, if the second ends where the first does. -/
theorem Hides.bind {p : Service α} {k : α → Service β} (hp : Hides R p) (hk : ∀ a, Hides S (k a))
    (hends : ∀ a, R a → ∃ b, S b ∧ k a = pure b) : Hides S (p >>= k) := by
  induction p with
  | done a => exact hk a
  | ask op next ih => exact ⟨fun r => ih r (hp.1 r), hp.2.bind hends⟩

theorem Hides.bind_same {p : Service α} {k : α → Service β} {a : α} {b : β}
    (hp : Hides (· = a) p) (hk : ∀ x, Hides (· = b) (k x)) (hend : ∃ t, (k a).Plays t b) :
    Hides (· = b) (p >>= k) := by
  induction p with
  | done x => exact hk x
  | ask op next ih =>
    refine ⟨fun r => ih r (hp.1 r), ?_⟩
    cases op with
    | count m => trivial
    | offer e => trivial
    | call c =>
      obtain ⟨q, hq, hopen⟩ := hp.2.exists_same
      refine .inr ⟨q >>= k, fun e he => congrArg (· >>= k) (hq e he),
        hopen.imp (fun h r => congrArg (· >>= k) (h r)) ?_⟩
      rintro ⟨t, hplays⟩
      obtain ⟨t', hplays'⟩ := hend
      exact ⟨t ++ t', b, rfl, Program.plays_bind.mpr ⟨t, a, t', hplays, hplays', rfl⟩⟩

/-! ## What hiding means -/

section Meaning

variable {p : Service α} {a b : α}

/-- **Alike worlds see the same end** of a program that hides system errors. -/
theorem Hides.result_eq {s s' : Script Effect.Answer} (hp : Hides (· = b) p) (hs : s.Alike s')
    {t t' : Transcript Effect.Answer} (ht : List.Forall₂ Exchange.Alike t t') :
    ((p.run s.perform).run t).1 = ((p.run s'.perform).run t').1 := by
  induction p generalizing t t' with
  | done a => rfl
  | ask op next ih =>
    have halike : op.Alike (s t op) (s' t' op) := hs t t' ht op
    have hpast : List.Forall₂ Exchange.Alike (t ++ [⟨op, s t op⟩]) (t' ++ [⟨op, s' t' op⟩]) :=
      List.rel_append ht (.cons (.intro halike) .nil)
    have hnext : next (s t op) = next (s' t' op) := by
      cases op with
      | count m => rfl
      | offer e => rw [show s t (.offer e) = s' t' (.offer e) from halike]
      | call c =>
        obtain ⟨q, hq, -⟩ := hp.2.exists_same
        obtain heq | ⟨e, e', he, he', hsys, hsys'⟩ := halike
        · rw [heq]
        · rw [he, he', hq e hsys, hq e' hsys']
    change ((Program.run s.perform (next (s t op))).run _).1 =
      ((Program.run s'.perform (next (s' t' op))).run _).1
    rw [← hnext]
    exact ih _ (hp.1 _) hpast

/-- **A system error decides the end** of a program that hides system errors in one way only. -/
theorem Hides.eq_of_decidedBy {before : Transcript Effect.Answer} {x : Exchange Effect.Answer}
    (hp : Hides (· = b) p) (h : p.DecidedBy before x a) (hx : x.IsFault) : a = b := by
  induction p generalizing before with
  | done a =>
    obtain ⟨after, hplays, -⟩ := h.plays
    simp at hplays
  | ask op next ih =>
    obtain ⟨after, hplays⟩ := h.plays
    cases before with
    | cons y before =>
      obtain ⟨r, rest, heq, -⟩ := hplays
      obtain rfl : y = ⟨op, r⟩ := (List.cons.inj heq).1
      exact ih r (hp.1 r) h.tail
    | nil =>
      obtain ⟨r, rest, heq, -⟩ := hplays
      obtain rfl : x = ⟨op, r⟩ := (List.cons.inj heq).1
      cases op with
      | count m => exact hx.elim
      | offer e => exact hx.elim
      | call c =>
        cases r with
        | ok v => exact hx.elim
        | error e =>
          obtain ⟨q, hq, hopen⟩ := hp.2.exists_same
          have hend : ∀ t a', q.Plays t a' → a' = a := by
            intro t a' ht
            rw [← hq e hx] at ht
            exact h.settled t a' (Program.plays_ask_cons.mpr ht)
          rcases hopen with hsame | ⟨t, hplays⟩
          · -- No answer mattered, so the end was settled before.
            refine absurd ?_ h.wasOpen
            rintro _ a' ⟨r, t, -, ht⟩
            rw [hsame] at ht
            exact hend t a' ht
          · exact (hend t b hplays).symm

end Meaning

/-! ## Programs that may fail -/

section Masks

variable {H : ε → Prop}

/-- A program hides system errors behind errors of a kind. -/
def Masks (H : ε → Prop) (p : ExceptT ε Service α) : Prop :=
  Hides (fun r => ∃ e, H e ∧ r = .error e) p.run

theorem masks_pure (a : α) : Masks H (pure a) := trivial

theorem masks_throw (e : ε) : Masks H (throw e : ExceptT ε Service α) := trivial

theorem masks_count (m : Metric) : Masks H (liftM (count m)) := ⟨fun _ => trivial, trivial⟩

theorem masks_offer (e : Event) : Masks H (liftM (offer e)) := ⟨fun _ => trivial, trivial⟩

theorem Masks.bind {p : ExceptT ε Service α} {f : α → ExceptT ε Service β} (hp : Masks H p)
    (hf : ∀ a, Masks H (f a)) : Masks H (p >>= f) := by
  rw [Masks, ExceptT.run_bind]
  refine Hides.bind hp (fun r => ?_) ?_
  · cases r with
    | ok a => exact hf a
    | error e => trivial
  · rintro _ ⟨e, he, rfl⟩
    exact ⟨.error e, ⟨e, he, rfl⟩, rfl⟩

theorem masks_mapM {f : α → ExceptT ε Service β} (hf : ∀ a, Masks H (f a)) (l : List α) :
    Masks H (l.mapM f) := by
  induction l with
  | nil => exact masks_pure _
  | cons a l ih =>
    rw [List.mapM_cons]
    exact (hf a).bind fun _ => ih.bind fun _ => masks_pure _

theorem masks_forM {f : α → ExceptT ε Service Unit} (hf : ∀ a, Masks H (f a)) (l : List α) :
    Masks H (l.forM f) := by
  induction l with
  | nil => exact masks_pure _
  | cons a l ih => exact (hf a).bind fun _ => ih

theorem masks_call (c : Call) : Masks ServiceError.IsSystem (call c) :=
  ⟨fun _ => trivial, .inl fun e he => ⟨.error e, ⟨e, he, rfl⟩, rfl⟩⟩

end Masks

end Service

open Service

/-! ## Permissions -/

namespace Rank

/-- Whether the user owns the object may be unknown, which counts as no. So a program that goes on
from there hides why, if it can still fail or goes on the same way in any case. -/
theorem masks_owns {β : Type} {user object : String} {yes no : Fallible β}
    (hyes : Masks ServiceError.IsSystem yes) (hno : Masks ServiceError.IsSystem no)
    (h : yes = no ∨ ∃ t e, e.IsSystem ∧ no.run.Plays t (.error e)) :
    Masks ServiceError.IsSystem (liftM (owns user object) >>= fun own => if own then yes else no) := by
  unfold owns
  split
  · exact hno
  refine ⟨fun r => ?_, .inr ⟨no.run, fun _ _ => rfl, h.imp (fun heq r => ?_) ?_⟩⟩
  · cases r with
    | error e => exact hno
    | ok info =>
      change Masks _ (if info.isCreatedBy user then yes else no)
      split
      · exact hyes
      · exact hno
  · cases r with
    | error e => rfl
    | ok info =>
      change (if info.isCreatedBy user then yes else no).run = no.run
      rw [heq, ite_self]
  · rintro ⟨t, e, he, hplays⟩
    exact ⟨t, _, ⟨e, he, rfl⟩, hplays⟩

theorem masks_evaluate (user : String) (actions : List Action) (object : String) :
    Masks ServiceError.IsSystem (evaluate user actions object) := by
  have bound (u : User) : Masks ServiceError.IsSystem (actions.mapM (byRank u.rank)) :=
    masks_mapM (fun _ => (masks_call _).bind fun _ => masks_pure _) actions
  unfold evaluate
  split
  · exact masks_pure _
  refine (masks_call _).bind fun found => ?_
  cases found with
  | none => exact masks_pure _
  | some u =>
    dsimp only
    split
    · exact masks_pure _
    split
    · refine masks_owns (masks_pure _) (bound u) ?_
      -- Without actions the owner does not matter. Otherwise the first threshold may fail next.
      cases actions with
      | nil => exact .inl rfl
      | cons a actions =>
        exact .inr ⟨[⟨.call (.getInt a.settingKey), .error (.internal "")⟩], .internal "", trivial,
          _, _, rfl, rfl, rfl⟩
    · exact bound u

theorem masks_checkAll (user : String) (actions : List Action) (object : String) :
    Masks ServiceError.IsSystem (checkAll user actions object) := by
  refine (masks_evaluate user actions object).bind fun checks => ?_
  exact (masks_forM (fun _ => masks_count _) checks).bind fun _ => masks_pure _

theorem masks_checkVote (user : String) (o : ObjectInfo) (up : Bool) :
    Masks ServiceError.IsSystem (checkVote user o up) := by
  unfold checkVote
  split
  · exact masks_pure _
  split
  · exact masks_throw _
  refine (masks_call _).bind fun found => ?_
  cases found with
  | none => exact masks_pure _
  | some u =>
    have counted (a : Action) (b : Bool) : Masks ServiceError.IsSystem (do
        (liftM (count (.permissionCheck a b)) : Fallible Unit)
        pure b) := (masks_count _).bind fun _ => masks_pure _
    dsimp only
    split
    · exact (masks_pure true).bind (counted _)
    · exact ((masks_call _).bind fun _ => masks_pure _).bind (counted _)

end Rank

/-! ## Changes -/

/-- A refusal that tells nothing but that something failed. -/
def ApiError.IsInternal : ApiError → Prop
  | internal _ => True
  | _ => False

theorem isInternal_ofService {e : ServiceError} (h : e.IsSystem) :
    (ApiError.ofService e).IsInternal := by
  cases e with
  | userNotFound _ | objectNotFound _ | badgeNotFound _ | invalidObjectId _ | unknownAction _
  | validation _ => exact h.elim
  | database _ | serialization _ | infrastructure _ | internal _ => trivial

namespace Handler

theorem masks_ofFallible {α : Type} {p : Fallible α} (hp : Masks ServiceError.IsSystem p) :
    Masks ApiError.IsInternal (ofFallible p) := by
  refine Hides.bind hp (fun _ => hides_pure _) ?_
  rintro _ ⟨e, he, rfl⟩
  exact ⟨_, ⟨_, isInternal_ofService he, rfl⟩, rfl⟩

theorem masks_known {α : Type} (r : Except ApiError α) : Masks ApiError.IsInternal (known r) :=
  trivial

theorem masks_permit (user : String) (a : Action) (object : String) :
    Masks ApiError.IsInternal (permit user a object) := by
  refine (masks_ofFallible (Rank.masks_checkAll user [a] object)).bind fun checks => ?_
  cases checks with
  | nil => exact masks_throw _
  | cons c cs =>
    dsimp only
    split
    · exact masks_pure _
    · exact masks_throw _

end Handler

open Handler

theorem ChangeRequest.stepwise_masks : Stepwise fun p => Masks ApiError.IsInternal p where
  pure := masks_pure
  throw := masks_throw
  bind := Masks.bind
  objectInfo _ := masks_ofFallible (masks_call _)
  permit := masks_permit
  checkVote user o up := masks_ofFallible (Rank.masks_checkVote user o up)

theorem Change.masks_carryOut (c : Change) : Masks ApiError.IsInternal c.carryOut := by
  refine (masks_ofFallible (masks_call _)).bind fun reply => ?_
  dsimp only
  split
  · exact (masks_offer _).bind fun _ => masks_pure _
  · exact masks_pure _

theorem ChangeKind.masks_handle (k : ChangeKind) (c : Context) (r : Request) :
    Masks ApiError.IsInternal (k.handle c r) :=
  (masks_known _).bind fun q => (masks_known _).bind fun _ =>
    (ChangeRequest.stepwise_masks.plan q).bind fun change => change.masks_carryOut

/-! ## Endpoints -/

namespace Search

theorem masks_filter? (q : Query) (asker : Option String) :
    Masks ServiceError.IsSystem (filter? q asker) := by
  have author : Masks ServiceError.IsSystem (resolveAuthor q.arg asker) := by
    unfold resolveAuthor
    split
    · exact masks_pure _
    · exact (masks_call _).bind fun _ => masks_pure _
  have number : Masks ServiceError.IsSystem (number q.arg) := by
    unfold number
    split
    · exact masks_pure _
    · exact masks_throw _
  unfold filter?
  cases q.form with
  | author => exact author.bind fun _ => masks_pure _
  | score | answerCount => exact number.bind fun _ => masks_pure _
  | _ => exact masks_pure _

theorem masks_search (r : SearchRequest) (asker : Option String) :
    Masks ServiceError.IsSystem (search r asker) := by
  unfold search
  cases r.fault? with
  | some detail => exact masks_throw _
  | none =>
    refine (masks_filter? _ _).bind fun found => ?_
    cases found with
    | none => exact masks_pure _
    | some filter =>
      exact (masks_call _).bind fun _ => (masks_count _).bind fun _ => masks_pure _

end Search

/-- The reply that something failed. -/
def Reply.failed : Reply := .envelope ⟨500, "base.unknown", .null⟩

theorem ApiError.IsInternal.envelope_eq {e : ApiError} (h : e.IsInternal) :
    Reply.envelope e.envelope = .failed := by
  cases e with
  | internal _ => rfl
  | rankNotMet _ | forbidden _ | unauthorized _ | validation _ | notFound _ => exact h.elim

namespace Endpoint

variable (c : Context) (r : Request)

theorem masks_permissions : Masks ApiError.IsInternal (permissions c r) :=
  (masks_known _).bind fun _ => (masks_known _).bind fun _ => (masks_known _).bind fun _ =>
    (masks_ofFallible ((Rank.masks_checkAll _ _ _).bind fun _ => masks_pure _)).bind fun _ =>
      masks_pure _

theorem masks_results : Masks ApiError.IsInternal (results c r) :=
  (masks_known _).bind fun _ =>
    (masks_ofFallible (Search.masks_search _ _)).bind fun _ => masks_pure _

theorem masks_badgeList : Masks ApiError.IsInternal badgeList :=
  (masks_ofFallible (masks_call _)).bind fun _ => masks_pure _

theorem masks_awardList : Masks ApiError.IsInternal (awardList c r) :=
  (masks_known _).bind fun _ => (masks_ofFallible (masks_call _)).bind fun _ => masks_pure _

theorem hides_handle (e : Endpoint) : Hides (· = .failed) (e.handle c r) := by
  have data {p : Handler Json} {k : Except ApiError Json → Service Reply}
      (hp : Masks ApiError.IsInternal p) (hok : ∀ v, Hides (· = .failed) (k (.ok v)))
      (herror : ∀ err, k (.error err) = pure (.envelope err.envelope)) :
      Hides (· = .failed) (p.run >>= k) := by
    refine Hides.bind hp (fun found => ?_) ?_
    · cases found with
      | ok v => exact hok v
      | error err =>
        rw [herror]
        trivial
    · rintro _ ⟨err, herr, rfl⟩
      exact ⟨_, rfl, by rw [herror, herr.envelope_eq]⟩
  unfold handle
  cases e with
  | health => trivial
  | permission => exact data (masks_permissions c r) (fun _ => trivial) fun _ => rfl
  | search => exact data (masks_results c r) (fun _ => trivial) fun _ => rfl
  | badges => exact data masks_badgeList (fun _ => trivial) fun _ => rfl
  | awards => exact data (masks_awardList c r) (fun _ => trivial) fun _ => rfl
  | change k => exact data (k.masks_handle c r) (fun _ => trivial) fun _ => rfl

end Endpoint

/-! ## Responses -/

namespace Server

/-- The response that something failed. It tells no more, and to `HEAD` not even this. -/
def failed (r : Request) : Response :=
  withoutBody r.method
    { status := 500
      contentType := some "application/json"
      body := .json (.object [("code", .int 500), ("reason", .text "base.unknown"),
        ("msg", .text (r.language.message "base.unknown")), ("data", .null)]) }

theorem hides_reply (c : Context) (r : Request) : Hides (· = .failed) (reply c r) := by
  unfold reply
  split
  · trivial
  split
  · trivial
  split
  · trivial
  · exact Endpoint.hides_handle _ _ _

/-- **A response hides system errors.** -/
theorem hides_respond (s : Server) (now : Int) (r : Request) :
    Hides (· = failed r) (s.respond now r) := by
  rw [respond_eq]
  refine Hides.bind_same (?reply : Hides (· = Reply.failed) _) (fun _ => ⟨fun _ => trivial, trivial⟩)
    ⟨_, (), [], rfl, rfl, rfl⟩
  split
  · exact hides_reply _ _
  · trivial

/-- **Nothing of a system error is told.** Worlds that differ only in which system errors calls fail
with get the same response to a request. Where such an error decides the response, so that another
answer of the call could still lead to another one, the response is that something failed. -/
theorem respond_hides_system_errors (s : Server) (now : Int) (r : Request) :
    (∀ w w' : Script Effect.Answer, w.Alike w' →
      (w.run (s.respond now r)).1 = (w'.run (s.respond now r)).1) ∧
    ∀ before x response, x.IsFault → (s.respond now r).DecidedBy before x response →
      response = failed r := by
  refine ⟨fun w w' hw => ?_, fun before x response hx h => ?_⟩
  · exact (hides_respond s now r).result_eq hw .nil
  · exact (hides_respond s now r).eq_of_decidedBy h hx

/-- A world in which every call fails with an error. -/
def failing (e : ServiceError) : Script Effect.Answer
  | _, .call _ => .error e
  | _, .count _ => ()
  | _, .offer _ => false

theorem alike_failing {e e' : ServiceError} (he : e.IsSystem) (he' : e'.IsSystem) :
    (failing e).Alike (failing e') := by
  intro t t' _ op
  cases op with
  | call c => exact .inr ⟨e, e', rfl, rfl, he, he'⟩
  | count m => rfl
  | offer ev => rfl

/-- The badges cannot be listed: it is not told why. -/
theorem respond_hides_system_errors_badges :
    ((failing (.database .poolTimedOut)).run (respond ⟨⟨"", "", 0⟩⟩ 0 badges)).1 =
      ((failing (.internal "disk full")).run (respond ⟨⟨"", "", 0⟩⟩ 0 badges)).1 ∧
    ∃ x response, x.IsFault ∧ (respond ⟨⟨"", "", 0⟩⟩ 0 badges).DecidedBy [] x response ∧
      response = failed badges := by
  obtain ⟨hsame, hdecided⟩ := respond_hides_system_errors ⟨⟨"", "", 0⟩⟩ 0 badges
  have hx : Exchange.IsFault ⟨.call .activeBadges, .error (.database .poolTimedOut)⟩ := trivial
  have h : (respond ⟨⟨"", "", 0⟩⟩ 0 badges).DecidedBy []
      ⟨.call .activeBadges, .error (.database .poolTimedOut)⟩ (failed badges) := by
    refine ⟨⟨_, _, _, rfl, (), [], rfl, rfl, rfl⟩, ?_, fun hsettled => ?_⟩
    · rintro rest b ⟨_, _, heq, hcounted⟩
      cases heq
      obtain ⟨_, _, -, -, hb⟩ := hcounted
      exact hb.symm
    · have hother := hsettled [⟨.call .activeBadges, .ok []⟩, ⟨_, ()⟩] _
        ⟨_, _, rfl, _, _, rfl, rfl, rfl⟩
      exact absurd (congrArg Response.status hother) (by decide)
  exact ⟨hsame _ _ (alike_failing trivial trivial), _, _, hx, h, hdecided [] _ _ hx h⟩

end Server

end Forum
