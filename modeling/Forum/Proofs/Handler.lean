import Forum.Http.Handler
import Forum.Proofs.Permission

/-!
# The steps of a request in a world

* `World.result_bind_eq_ok`: a sequence succeeds when both parts do;
* `World.Permits`, `World.Loads`: what a request needs before anything is done;
* **`permit_eq_ok`**, **`loadObject_eq_ok`**: the two steps succeed exactly then;
* `looks_permit`, `looks_checkVote`: these steps change nothing.
-/

namespace Forum

namespace World

variable (w : World) {α β ε : Type}

theorem result_bind_eq_ok {p : ExceptT ε Service α} {f : α → ExceptT ε Service β} {b : β} :
    w.result (p >>= f).run = .ok b ↔
      ∃ a, w.result p.run = .ok a ∧ w.result (f a).run = .ok b := by
  rw [result_bind_except]
  cases w.result p.run <;> simp

@[simp] theorem mapError_ok {ε' : Type} (f : ε → ε') (a : α) :
    (Except.ok a).mapError f = .ok a := rfl

@[simp] theorem mapError_error {ε' : Type} (f : ε → ε') (e : ε) :
    (Except.error e : Except ε α).mapError f = .error (f e) := rfl

theorem result_ofFallible {p : Fallible α} :
    w.result (Handler.ofFallible p).run = (w.result p.run).mapError ApiError.ofService :=
  w.result_bind p.run _

theorem result_ofFallible_eq_ok {p : Fallible α} {a : α} :
    w.result (Handler.ofFallible p).run = .ok a ↔ w.result p.run = .ok a := by
  rw [result_ofFallible]
  cases w.result p.run <;> simp

theorem objectInfo_eq_ok {id : String} {o : ObjectInfo} :
    w.result (Handler.ofFallible (Service.call (.objectInfo id))).run = .ok o ↔
      w.answer (.objectInfo id) = .ok o := w.result_ofFallible_eq_ok

theorem result_known (r : Except ApiError α) : w.result (Handler.known r).run = r := rfl

/-- The user is permitted an action on an object. -/
def Permits (user : String) (a : Action) (object : String) : Prop :=
  w.result (Rank.check user a object).run = .ok true

/-- The object of an id that tells a kind, as its look-up answers. -/
def Loads (id : String) (kind : ObjectKind) (o : ObjectInfo) : Prop :=
  ObjectKind.ofObjectId? id = some kind ∧ w.answer (.objectInfo id) = .ok o

end World

/-! ## Programs of services and handlers that only look -/

namespace Service

variable {α β ε : Type}

theorem looks_call {c : Call} (h : (Effect.call c).isAct = false) : Looks (call c).run :=
  looks_attempt h

theorem Looks.ofFallible {p : Fallible α} (hp : Looks p.run) :
    Looks (Handler.ofFallible p).run := hp.bind fun _ => looks_pure _

theorem looks_known (r : Except ApiError α) : Looks (Handler.known r).run := looks_pure r

theorem looks_mapM {f : α → ExceptT ε Service β} (hf : ∀ a, Looks (f a).run) (l : List α) :
    Looks (l.mapM f).run := Program.asks_mapM hf l

theorem looks_forM {f : α → ExceptT ε Service Unit} (hf : ∀ a, Looks (f a).run) (l : List α) :
    Looks (l.forM f).run := by
  induction l with
  | nil => exact looks_pure _
  | cons a l ih => exact (hf a).bind_except fun _ => ih

end Service

open Service

namespace Rank

theorem looks_owns (user object : String) : Looks (owns user object) := by
  unfold owns
  split
  · exact looks_pure _
  · refine (looks_attempt rfl).bind fun r => ?_
    cases r <;> exact looks_pure _

theorem looks_byRank (rank : Int) (a : Action) : Looks (byRank rank a).run :=
  (looks_call rfl).bind_except fun _ => looks_pure_except _

theorem looks_evaluate (user : String) (actions : List Action) (object : String) :
    Looks (evaluate user actions object).run := by
  have bound : ∀ u : User, Looks (actions.mapM (byRank u.rank)).run := fun u =>
    looks_mapM (looks_byRank u.rank) actions
  unfold evaluate
  split
  · exact looks_pure_except _
  refine (looks_call rfl).bind_except fun found => ?_
  cases found with
  | none => exact looks_pure_except _
  | some u =>
    dsimp only
    split
    · exact looks_pure_except _
    split
    · refine (looks_owns user object).lift.bind_except fun own => ?_
      cases own
      · exact bound u
      · exact looks_pure_except _
    · exact bound u

theorem looks_checkAll (user : String) (actions : List Action) (object : String) :
    Looks (checkAll user actions object).run := by
  refine (looks_evaluate user actions object).bind_except fun checks => ?_
  refine Looks.bind_except ?_ fun _ => looks_pure_except _
  exact looks_forM (fun _ => (looks_count _).lift) checks

theorem looks_checkEach (user : String) (actions : List Action) (object : String) :
    Looks (checkEach user actions object).run :=
  (looks_checkAll user actions object).bind_except fun _ => looks_pure_except _

theorem looks_checkVote (user : String) (o : ObjectInfo) (up : Bool) :
    Looks (checkVote user o up).run := by
  unfold checkVote
  split
  · exact looks_pure_except _
  split
  · exact looks_throw _
  refine (looks_call rfl).bind_except fun found => ?_
  cases found with
  | none => exact looks_pure_except _
  | some u =>
    have counted : ∀ (a : Action) (b : Bool), Looks (do
        (liftM (count (.permissionCheck a b)) : Fallible Unit)
        pure b).run := fun _ _ =>
      (looks_count _).lift.bind_except fun _ => looks_pure_except _
    dsimp only
    split
    · exact (looks_pure_except true).bind_except (counted _)
    · refine Looks.bind_except ?_ (counted _)
      exact (looks_call rfl).bind_except fun _ => looks_pure_except _

end Rank

namespace Handler

variable (w : World)

/-- **A permission is granted** to those whom the verdict on the one action allows. -/
theorem permit_eq_ok {user object : String} {a : Action} {x : Unit} :
    w.result (permit user a object).run = .ok x ↔ w.Permits user a object := by
  rw [permit, World.result_bind_except, World.result_ofFallible, World.Permits, Rank.check,
    World.result_bind_except]
  cases w.result (Rank.checkAll user [a] object).run with
  | error e => simp
  | ok checks =>
    cases checks with
    | nil => simp
    | cons c cs => cases h : c.allowed <;> simp [h]

theorem looks_permit (user : String) (a : Action) (object : String) :
    Looks (permit user a object).run := by
  refine (Rank.looks_checkAll user [a] object).ofFallible.bind_except fun checks => ?_
  cases checks with
  | nil => exact looks_throw _
  | cons c cs =>
    dsimp only
    split
    · exact looks_pure_except _
    · exact looks_throw _

/-- **An object is loaded** when its id tells the kind and its look-up succeeds. -/
theorem loadObject_eq_ok {id : String} {kind : ObjectKind} {o : ObjectInfo} :
    w.result (loadObject id kind).run = .ok o ↔ w.Loads id kind o := by
  unfold loadObject World.Loads
  split
  · next h => rw [World.result_ofFallible_eq_ok, World.result_call, and_iff_right h]
  · next h => simp [h]

end Handler

end Forum
