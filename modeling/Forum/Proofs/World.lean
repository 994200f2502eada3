import Forum.Service

/-!
# Worlds

A world fixes how every repository call is answered. In a world a program of the service has one
result, and it asks one list of operations.

* `World`, `World.result`, `World.asked`; `World.acts`: the changes and the offers of events among
  the operations;
* `Program.Asks`: whatever it is answered, a program asks only operations with a property;
* `Service.Looks`: whatever it is answered, a program changes nothing and offers no event;
* **`result_bind`**, **`asked_bind`**: a sequence of programs in a world;
* **`acts_eq_nil`**: what only looks does nothing, in any world.
-/

namespace Forum

/-- How the repositories answer each call, and which events are accepted. -/
structure World where
  answer : (c : Call) → Except ServiceError c.Reply
  accepts : Event → Bool

namespace World

variable (w : World) {α β ε : Type}

/-- The answer to an operation. -/
def reply : (e : Effect) → e.Answer
  | .call c => w.answer c
  | .count _ => ()
  | .offer e => w.accepts e

/-- The answer to an operation, which is written down. -/
def perform (e : Effect) : StateM (List Effect) e.Answer := fun log => (w.reply e, log ++ [e])

/-- The run of a program: its result, and the operations that it asks. -/
def run (p : Service α) : α × List Effect := (p.run w.perform).run []

/-- The result of a program. -/
def result (p : Service α) : α := (w.run p).1

/-- The operations that a program asks, in order. -/
def asked (p : Service α) : List Effect := (w.run p).2

theorem run_perform (p : Service α) (log : List Effect) :
    (p.run w.perform).run log = (w.result p, log ++ w.asked p) := by
  induction p generalizing log with
  | done a => exact congrArg (Prod.mk a) (List.append_nil log).symm
  | ask op next ih =>
    have step : ∀ l, (Program.run w.perform (.ask op next)).run l =
        ((next (w.reply op)).run w.perform).run (l ++ [op]) := fun _ => rfl
    have first : w.run (.ask op next) = (w.result (next (w.reply op)),
        [op] ++ w.asked (next (w.reply op))) := by
      rw [run, step, ih, List.nil_append]
    have hr : w.result (.ask op next) = w.result (next (w.reply op)) := by
      change (w.run _).1 = _
      rw [first]
    have ha : w.asked (.ask op next) = [op] ++ w.asked (next (w.reply op)) := by
      change (w.run _).2 = _
      rw [first]
    rw [step, ih, hr, ha, List.append_assoc]

@[simp] theorem result_pure (a : α) : w.result (pure a) = a := rfl
@[simp] theorem asked_pure (a : α) : w.asked (pure a) = [] := rfl

@[simp] theorem result_ask (op : Effect) (next : op.Answer → Service α) :
    w.result (.ask op next) = w.result (next (w.reply op)) := by
  have h := w.run_perform (next (w.reply op)) [op]
  change (((next (w.reply op)).run w.perform).run [op]).1 = _
  rw [h]

@[simp] theorem asked_ask (op : Effect) (next : op.Answer → Service α) :
    w.asked (.ask op next) = op :: w.asked (next (w.reply op)) := by
  have h := w.run_perform (next (w.reply op)) [op]
  change (((next (w.reply op)).run w.perform).run [op]).2 = _
  rw [h, List.singleton_append]

/-- **The result of a sequence.** -/
theorem result_bind (p : Service α) (f : α → Service β) :
    w.result (p >>= f) = w.result (f (w.result p)) := by
  induction p with
  | done a => rfl
  | ask op next ih => rw [Program.ask_bind, result_ask, ih, result_ask]

/-- **The operations of a sequence.** -/
theorem asked_bind (p : Service α) (f : α → Service β) :
    w.asked (p >>= f) = w.asked p ++ w.asked (f (w.result p)) := by
  induction p with
  | done a => rfl
  | ask op next ih => rw [Program.ask_bind, asked_ask, ih, asked_ask, result_ask, List.cons_append]

@[simp] theorem result_attempt (c : Call) : w.result (Service.attempt c) = w.answer c := rfl
@[simp] theorem result_count (m : Metric) : w.result (Service.count m) = () := rfl
@[simp] theorem result_offer (e : Event) : w.result (Service.offer e) = w.accepts e := rfl

/-! ## Programs that may fail -/

theorem result_bind_except (p : ExceptT ε Service α) (f : α → ExceptT ε Service β) :
    w.result (p >>= f).run =
      match w.result p.run with
      | .ok a => w.result (f a).run
      | .error e => .error e := by
  rw [ExceptT.run_bind, result_bind]
  cases w.result p.run <;> rfl

theorem asked_bind_except (p : ExceptT ε Service α) (f : α → ExceptT ε Service β) :
    w.asked (p >>= f).run = w.asked p.run ++
      match w.result p.run with
      | .ok a => w.asked (f a).run
      | .error _ => [] := by
  rw [ExceptT.run_bind, asked_bind]
  cases w.result p.run <;> rfl

@[simp] theorem result_call (c : Call) : w.result (Service.call c).run = w.answer c := rfl

@[simp] theorem asked_call (c : Call) : w.asked (Service.call c).run = [.call c] := rfl

@[simp] theorem result_pure_except (a : α) :
    w.result (pure a : ExceptT ε Service α).run = .ok a := rfl

@[simp] theorem result_throw (e : ε) :
    w.result (throw e : ExceptT ε Service α).run = .error e := rfl

@[simp] theorem result_lift (p : Service α) :
    w.result (liftM p : ExceptT ε Service α).run = .ok (w.result p) := by
  change w.result ((ExceptT.lift p).run) = _
  rw [ExceptT.run_lift]
  exact w.result_bind p _

@[simp] theorem asked_pure_except (a : α) :
    w.asked (pure a : ExceptT ε Service α).run = [] := rfl

theorem asked_bind_pure_except (p : ExceptT ε Service α) (f : α → β) :
    w.asked (p >>= fun a => pure (f a)).run = w.asked p.run := by
  rw [asked_bind_except]
  cases w.result p.run <;> exact List.append_nil _

@[simp] theorem asked_lift (p : Service α) :
    w.asked (liftM p : ExceptT ε Service α).run = w.asked p := by
  change w.asked ((ExceptT.lift p).run) = _
  rw [ExceptT.run_lift]
  exact (w.asked_bind p _).trans (List.append_nil _)

end World

/-! ## What a program can ask -/

namespace Program

variable {Op : Type} {Ans : Op → Type} {α β ε : Type}

/-- Every operation that a program can ask, whatever it is answered, has a property. -/
def Asks (P : Op → Prop) : Program Op Ans α → Prop
  | .done _ => True
  | .ask op next => P op ∧ ∀ r, (next r).Asks P

variable {P Q : Op → Prop}

theorem Asks.mono {p : Program Op Ans α} (hp : p.Asks P) (h : ∀ op, P op → Q op) : p.Asks Q := by
  induction p with
  | done a => trivial
  | ask op next ih => exact ⟨h op hp.1, fun r => ih r (hp.2 r)⟩

theorem Asks.bind {p : Program Op Ans α} {f : α → Program Op Ans β} (hp : p.Asks P)
    (hf : ∀ a, (f a).Asks P) : (p >>= f).Asks P := by
  induction p with
  | done a => exact hf a
  | ask op next ih => exact ⟨hp.1, fun r => ih r (hp.2 r)⟩

theorem Asks.bind_except {p : ExceptT ε (Program Op Ans) α}
    {f : α → ExceptT ε (Program Op Ans) β} (hp : p.run.Asks P) (hf : ∀ a, (f a).run.Asks P) :
    (p >>= f).run.Asks P := by
  rw [ExceptT.run_bind]
  refine hp.bind fun r => ?_
  cases r with
  | ok a => exact hf a
  | error e => trivial

theorem asks_mapM {f : α → ExceptT ε (Program Op Ans) β} (hf : ∀ a, (f a).run.Asks P)
    (l : List α) : (l.mapM f).run.Asks P := by
  induction l with
  | nil => trivial
  | cons a l ih =>
    rw [List.mapM_cons]
    exact (hf a).bind_except fun _ => ih.bind_except fun _ => trivial

end Program

theorem World.forall_mem_asked (w : World) {α : Type} {P : Effect → Prop} {p : Service α}
    (hp : p.Asks P) : ∀ op ∈ w.asked p, P op := by
  induction p with
  | done a => exact List.forall_mem_nil P
  | ask op next ih =>
    rw [World.asked_ask]
    exact List.forall_mem_cons.mpr ⟨hp.1, ih _ (hp.2 _)⟩

/-! ## Programs that only look -/

/-- Is an operation a change or the offer of an event? -/
def Effect.isAct : Effect → Bool
  | .call (.write _) | .offer _ => true
  | _ => false

namespace Service

variable {α β ε : Type}

/-- A program that changes nothing and offers no event, whatever it is answered. -/
def Looks (p : Service α) : Prop := p.Asks fun e => e.isAct = false

theorem looks_pure (a : α) : Looks (pure a : Service α) := trivial

theorem looks_attempt {c : Call} (h : (Effect.call c).isAct = false) : Looks (attempt c) :=
  ⟨h, fun _ => trivial⟩

theorem looks_count (m : Metric) : Looks (count m) := ⟨rfl, fun _ => trivial⟩

theorem Looks.bind {p : Service α} {f : α → Service β} (hp : Looks p) (hf : ∀ a, Looks (f a)) :
    Looks (p >>= f) := Program.Asks.bind hp hf

theorem Looks.bind_except {p : ExceptT ε Service α} {f : α → ExceptT ε Service β}
    (hp : Looks p.run) (hf : ∀ a, Looks (f a).run) : Looks (p >>= f).run :=
  Program.Asks.bind_except hp hf

theorem Looks.lift {p : Service α} (hp : Looks p) : Looks (liftM p : ExceptT ε Service α).run :=
  hp.bind fun _ => looks_pure _

theorem looks_pure_except (a : α) : Looks (pure a : ExceptT ε Service α).run := trivial

theorem looks_throw (e : ε) : Looks (throw e : ExceptT ε Service α).run := trivial

end Service

namespace World

variable (w : World) {α β ε : Type}

open Service

/-- The changes that a program makes and the events that it offers, in order. -/
def acts (p : Service α) : List Effect := (w.asked p).filter Effect.isAct

theorem acts_bind (p : Service α) (f : α → Service β) :
    w.acts (p >>= f) = w.acts p ++ w.acts (f (w.result p)) := by
  rw [acts, asked_bind, List.filter_append]
  rfl

/-- **What only looks does nothing.** -/
theorem acts_eq_nil {p : Service α} (hp : Looks p) : w.acts p = [] := by
  induction p with
  | done a => rfl
  | ask op next ih =>
    rw [acts, asked_ask, List.filter_cons_of_neg (by simp [hp.1]), ← acts, ih _ (hp.2 _)]

theorem acts_bind_eq_left {p : Service α} {f : α → Service β} (hf : ∀ a, w.acts (f a) = []) :
    w.acts (p >>= f) = w.acts p := by
  rw [acts_bind, hf, List.append_nil]

theorem acts_bind_except {p : ExceptT ε Service α} {f : α → ExceptT ε Service β}
    (hp : Looks p.run) :
    w.acts (p >>= f).run =
      match w.result p.run with
      | .ok a => w.acts (f a).run
      | .error _ => [] := by
  rw [ExceptT.run_bind, acts_bind, acts_eq_nil w hp, List.nil_append]
  cases w.result p.run <;> rfl

end World

end Forum
