/-!
# Programs over operations

A program either is done with a result, or asks for one operation and goes on with the answer. What
an operation does is left open: a program can be run in any monad that answers its operations.

* `Program`, a monad; `Program.perform`: a single operation;
* `Program.run`: the run of a program under an interpretation;
* **`run_bind`**: a run of a sequence is the sequence of the runs.
-/

namespace Forum

/-- A program that asks operations of type `Op`; the answer to `op` has the type `Ans op`. -/
inductive Program (Op : Type) (Ans : Op → Type) (α : Type) where
  | done (a : α)
  | ask (op : Op) (next : Ans op → Program Op Ans α)

namespace Program

variable {Op : Type} {Ans : Op → Type} {α β γ : Type}

/-- The first program, then the second on its result. -/
protected def bind : Program Op Ans α → (α → Program Op Ans β) → Program Op Ans β
  | done a, f => f a
  | ask op next, f => ask op fun r => (next r).bind f

instance : Monad (Program Op Ans) where
  pure := done
  bind := Program.bind

/-- A single operation. -/
def perform (op : Op) : Program Op Ans (Ans op) := ask op done

/-- The run of a program in a monad that answers its operations. -/
def run {m : Type → Type} [Monad m] (answer : (op : Op) → m (Ans op)) : Program Op Ans α → m α
  | done a => pure a
  | ask op next => answer op >>= fun r => (next r).run answer

@[simp] theorem done_bind (a : α) (f : α → Program Op Ans β) : (done a >>= f) = f a := rfl

@[simp] theorem pure_bind' (a : α) (f : α → Program Op Ans β) :
    ((pure a : Program Op Ans α) >>= f) = f a := rfl

@[simp] theorem ask_bind (op : Op) (next : Ans op → Program Op Ans α) (f : α → Program Op Ans β) :
    (ask op next >>= f) = ask op fun r => next r >>= f := rfl

@[simp] theorem perform_bind (op : Op) (f : Ans op → Program Op Ans β) :
    (perform op >>= f) = ask op f := rfl

theorem bind_pure' (p : Program Op Ans α) : p >>= pure = p := by
  induction p with
  | done a => rfl
  | ask op next ih => exact congrArg (ask op) (funext ih)

theorem bind_assoc' (p : Program Op Ans α) (f : α → Program Op Ans β) (g : β → Program Op Ans γ) :
    (p >>= f) >>= g = p >>= fun a => f a >>= g := by
  induction p with
  | done a => rfl
  | ask op next ih => exact congrArg (ask op) (funext ih)

instance : LawfulMonad (Program Op Ans) :=
  LawfulMonad.mk' _ (fun p => bind_pure' p) (fun _ _ => rfl) bind_assoc'

variable {m : Type → Type} [Monad m]

@[simp] theorem run_pure (answer : (op : Op) → m (Ans op)) (a : α) :
    (pure a : Program Op Ans α).run answer = pure a := rfl

/-- A run of a sequence is the sequence of the runs. -/
theorem run_bind [LawfulMonad m] (answer : (op : Op) → m (Ans op)) (p : Program Op Ans α)
    (f : α → Program Op Ans β) :
    (p >>= f).run answer = p.run answer >>= fun a => (f a).run answer := by
  induction p with
  | done a => simp [run]
  | ask op next ih =>
    simp only [ask_bind, run, bind_assoc]
    exact congrArg _ (funext ih)

end Program

end Forum
