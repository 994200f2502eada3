import Forum.Proofs.Transcript
import Forum.Storage.Basic

/-!
# Readings of replies

A program of one statement is the statement with a reading of its reply.

* `Storage.first`, `Storage.required`: the first row of a reply, and one that must be there;
* **`run_execute`**, **`run_executeOn`**, **`run_fetchOptional`**, **`run_fetchOne`**,
  **`run_fetchOn`**, **`run_fetchAll`**: the programs of one statement;
* **`plays_reading`**: the transcripts of such a program.
-/

namespace Forum.Storage

open Sql

variable {α : Type} {s : Statement} {f : Row → Except StorageError α} {id : String}

/-- The first row of a reply, if there is one. -/
def first (f : Row → Except StorageError α) (o : Outcome) : Except ServiceError (Option α) :=
  match o.rows with
  | [] => .ok none
  | r :: _ => (ofStorage (f r)).map some

theorem first_cons {r : Row} {rest : List Row} {n : Nat} :
    first f ⟨r :: rest, n⟩ = (ofStorage (f r)).map some := rfl

/-- What must be there. -/
def required (e : ServiceError) : Option α → Except ServiceError α
  | some a => .ok a
  | none => .error e

theorem run_reading {read : Outcome → Except ServiceError α} {p : Outcome → Stored α}
    (hp : ∀ o, (p o).run = pure (read o)) :
    (send s >>= p).run = (fun r => r.bind read) <$> (send s).run := by
  refine congrArg (Program.ask (StorageOp.run s)) (funext fun r => ?_)
  cases r with
  | error e => rfl
  | ok o => exact hp o

theorem run_execute :
    (execute s).run = (fun r => r.bind fun o => .ok o.affected) <$> (send s).run :=
  run_reading fun _ => rfl

theorem run_executeOn : (executeOn id s).run =
    (fun r => r.bind fun o => if o.affected = 0 then .error (.objectNotFound id) else .ok ()) <$>
      (send s).run := by
  rw [executeOn, execute, bind_assoc]
  refine run_reading fun o => ?_
  rw [pure_bind]
  split <;> rfl

theorem run_fetchOptional :
    (fetchOptional s f).run = (fun r => r.bind (first f)) <$> (send s).run := by
  refine run_reading fun o => ?_
  obtain ⟨rows, affected⟩ := o
  cases rows with
  | nil => rfl
  | cons r rest =>
    rw [first_cons]
    dsimp only
    cases f r <;> rfl

theorem run_required {e : ServiceError} {p : Option α → Stored α}
    (hp : ∀ found, (p found).run = pure (required e found)) :
    (fetchOptional s f >>= p).run =
      (fun r => r.bind fun o => (first f o).bind (required e)) <$> (send s).run := by
  rw [fetchOptional, bind_assoc]
  refine run_reading fun o => ?_
  obtain ⟨rows, affected⟩ := o
  cases rows with
  | nil => exact hp none
  | cons r rest =>
    rw [first_cons]
    dsimp only
    cases f r with
    | error e => rfl
    | ok a => exact hp (some a)

theorem run_fetchOne : (fetchOne s f).run =
    (fun r => r.bind fun o => (first f o).bind (required (.database .rowNotFound))) <$>
      (send s).run :=
  run_required fun found => by cases found <;> rfl

theorem run_fetchOn : (fetchOn id s f).run =
    (fun r => r.bind fun o => (first f o).bind (required (.objectNotFound id))) <$> (send s).run :=
  run_required fun found => by cases found <;> rfl

theorem run_fetchAll : (fetchAll s f).run =
    (fun r => r.bind fun o => ofStorage (o.rows.mapM f)) <$> (send s).run :=
  run_reading fun _ => rfl

theorem required_eq_ok {reply : Except StorageError Outcome} {e : ServiceError} {a : α}
    (h : ((ofStorage reply).bind fun o => (first f o).bind (required e)) = .ok a) :
    ∃ o, reply = .ok o ∧ ∃ r ∈ o.rows.head?, f r = .ok a := by
  cases reply with
  | error e => cases h
  | ok o =>
    obtain ⟨rows, affected⟩ := o
    refine ⟨_, rfl, ?_⟩
    cases rows with
    | nil => cases h
    | cons r rest =>
      refine ⟨r, rfl, ?_⟩
      change ((first f ⟨r :: rest, affected⟩).bind (required e)) = .ok a at h
      rw [first_cons] at h
      cases hr : f r with
      | error e =>
        rw [hr] at h
        cases h
      | ok b =>
        rw [hr] at h
        cases h
        rfl

theorem plays_reading {t : Transcript StorageOp.Answer} {r : Except ServiceError α}
    {read : Except ServiceError Outcome → Except ServiceError α} :
    Program.Plays (read <$> (send s).run) t r ↔
      ∃ reply, t = [⟨.run s, reply⟩] ∧ read (ofStorage reply) = r := by
  constructor
  · rintro ⟨reply, _, rfl, rfl, h⟩
    exact ⟨reply, rfl, h⟩
  · rintro ⟨reply, rfl, h⟩
    exact ⟨reply, [], rfl, rfl, h⟩

end Forum.Storage
