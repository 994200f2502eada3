import Forum.Proofs.Transcript
import Forum.Storage.Repository

/-!
# Programs of statements

A change of more than one row is a program of statements. Whatever the database answers, it goes on
as long as each statement finds what it needs, and ends at the first one that does not.

* `Statement.Finds`, `Exchange.Succeeds`: what a statement needs, and an operation that has it;
* `Storage.statements`: the statements among some operations;
* `Storage.Steady`: a program of statements that ends at the first one that does not succeed;
* **`steady_bind`**: a sequence of steady programs;
* **`steady_statement`**: a statement with the reading of its reply, and from it
  `steady_execute`, `steady_executeOn`, `steady_fetchOptional`, `steady_required`.
-/

namespace Forum

open Sql

/-- What a statement needs: the row of the post that it changes, or a first row with the value that
is asked for. An earlier vote need not be there, but if it is it must be readable. -/
def Sql.Statement.Finds : Statement → Outcome → Prop
  | .countAnswer _, o | .markAccepted _ _, o => o.affected ≠ 0
  | .nextId _, o | .addToVotes _ _ _, o | .insertAward _, o =>
    ∃ r ∈ o.rows.head?, ∃ n, r.at_ 0 (.int .int64) = .ok n
  | .removeAnswer _, o => ∃ r ∈ o.rows.head?, ∃ q, r.at_ 0 .text = .ok q
  | .lockVote _ _, o => ∀ r ∈ o.rows.head?, ∃ v, r.at_ 0 (.int .int16) = .ok v
  | _, _ => True

namespace Exchange

/-- An operation succeeds if it does not fail and, as a statement, finds what it needs. -/
def Succeeds : Exchange StorageOp.Answer → Prop
  | ⟨.openTransaction, r⟩ | ⟨.commit, r⟩ => r = .ok ()
  | ⟨.rollback, _⟩ => True
  | ⟨.run s, r⟩ => ∃ o, r = .ok o ∧ s.Finds o
  | ⟨.cache _, r⟩ => ∃ a, r = .ok a

/-- The statement of an exchange. -/
def statement? : Exchange StorageOp.Answer → Option Statement
  | ⟨.run s, _⟩ => some s
  | _ => none

end Exchange

namespace Storage

variable {α β : Type} {t : Transcript StorageOp.Answer}

/-- The statements that were sent. -/
def statements (t : Transcript StorageOp.Answer) : List Statement := t.filterMap Exchange.statement?

@[simp] theorem ofStorage_ok (a : α) : ofStorage (.ok a) = .ok a := rfl

@[simp] theorem ofStorage_error (e : StorageError) :
    ofStorage (.error e : Except StorageError α) = .error (.database e) := rfl

/-! ## Programs of statements -/

/-- A program sends statements only. It has a result when all of them succeed, and `post` is then
true of them and of the result; it fails at the first one that does not. -/
def Steady (p : Stored α) (post : List Statement → α → Prop) : Prop :=
  ∀ t r, p.run.Plays t r → (∀ x ∈ t, x.statement?.isSome) ∧
    match r with
    | .ok a => (∀ x ∈ t, x.Succeeds) ∧ post (statements t) a
    | .error _ => ∃ before last, t = before ++ [last] ∧ (∀ x ∈ before, x.Succeeds) ∧ ¬last.Succeeds

theorem steady_pure {post : List Statement → α → Prop} {a : α} (h : post [] a) :
    Steady (pure a) post := by
  rintro t r ⟨rfl, rfl⟩
  exact ⟨by simp, by simp, h⟩

/-- **A sequence of steady programs.** -/
theorem steady_bind {p : Stored α} {f : α → Stored β} {P : List Statement → α → Prop}
    {Q : List Statement → β → Prop} (hp : Steady p P)
    (hf : ∀ l a, P l a → Steady (f a) fun l' b => Q (l ++ l') b) : Steady (p >>= f) Q := by
  intro t r h
  rcases Program.plays_bind_except.mp h with ⟨e, he, rfl⟩ | ⟨t₁, a, t₂, h₁, h₂, rfl⟩
  · exact hp t _ he
  obtain ⟨hs₁, hall₁, hP⟩ := hp t₁ _ h₁
  obtain ⟨hs₂, hend⟩ := hf _ a hP t₂ r h₂
  refine ⟨List.forall_mem_append.mpr ⟨hs₁, hs₂⟩, ?_⟩
  cases r with
  | ok b =>
    obtain ⟨hall₂, hQ⟩ := hend
    refine ⟨List.forall_mem_append.mpr ⟨hall₁, hall₂⟩, ?_⟩
    rwa [statements, List.filterMap_append]
  | error e =>
    obtain ⟨before, last, rfl, hbefore, hlast⟩ := hend
    exact ⟨t₁ ++ before, last, (List.append_assoc _ _ _).symm,
      List.forall_mem_append.mpr ⟨hall₁, hbefore⟩, hlast⟩

theorem plays_send {s : Statement} {r : Except ServiceError Outcome} :
    (send s).run.Plays t r ↔ ∃ answer, t = [⟨.run s, answer⟩] ∧ ofStorage answer = r := by
  rw [show (send s).run = (ask (.run s) >>= fun a => pure (ofStorage a)) from rfl,
    Program.plays_bind]
  constructor
  · rintro ⟨_, answer, _, h, ⟨rfl, rfl⟩, rfl⟩
    rw [ask, Program.plays_perform] at h
    exact ⟨answer, by rw [h, List.append_nil], rfl⟩
  · rintro ⟨answer, rfl, rfl⟩
    exact ⟨_, answer, [], Program.plays_perform.mpr rfl, ⟨rfl, rfl⟩, rfl⟩

/-- **A statement with the reading of its reply**, which goes well when the statement finds what it
needs. -/
theorem steady_statement {s : Statement} {f : Outcome → Stored α}
    (read : Outcome → Except ServiceError α) (hf : ∀ o, (f o).run = pure (read o))
    (hr : ∀ o, s.Finds o ↔ ∃ a, read o = .ok a) : Steady (send s >>= f) fun l _ => l = [s] := by
  have fails : ∀ answer, ¬(⟨.run s, answer⟩ : Exchange StorageOp.Answer).Succeeds →
      ∃ before last, [⟨.run s, answer⟩] = before ++ [last] ∧
        (∀ x ∈ before, x.Succeeds) ∧ ¬Exchange.Succeeds last :=
    fun answer h => ⟨[], _, rfl, by simp, h⟩
  intro t r h
  rcases Program.plays_bind_except.mp h with ⟨e, he, rfl⟩ | ⟨t₁, o, t₂, h₁, h₂, rfl⟩
  · -- The statement itself failed, so it found nothing.
    obtain ⟨answer, rfl, ha⟩ := plays_send.mp he
    refine ⟨by simp [Exchange.statement?], fails answer ?_⟩
    rintro ⟨o, rfl, -⟩
    cases ha
  · obtain ⟨answer, rfl, ha⟩ := plays_send.mp h₁
    rw [hf, Program.plays_pure] at h₂
    obtain ⟨rfl, rfl⟩ := h₂
    have hanswer : answer = .ok o := by
      cases answer <;> cases ha
      rfl
    subst hanswer
    refine ⟨by simp [Exchange.statement?], ?_⟩
    cases hread : read o with
    | ok a =>
      have hsucceeds : (⟨.run s, .ok o⟩ : Exchange StorageOp.Answer).Succeeds :=
        ⟨o, rfl, (hr o).mpr ⟨a, hread⟩⟩
      exact ⟨by simpa using hsucceeds, rfl⟩
    | error e =>
      refine fails (.ok o) fun ⟨o', ho, hfinds⟩ => ?_
      cases ho
      obtain ⟨a, ha⟩ := (hr o).mp hfinds
      rw [hread] at ha
      cases ha

variable {s : Statement}

theorem steady_execute (hs : ∀ o, s.Finds o) : Steady (execute s) fun l _ => l = [s] :=
  steady_statement (fun o => .ok o.affected) (fun _ => rfl) fun o => by simp [hs o]

theorem steady_executeOn {id : String} (hs : ∀ o, s.Finds o ↔ o.affected ≠ 0) :
    Steady (executeOn id s) fun l _ => l = [s] := by
  rw [executeOn, execute, bind_assoc]
  refine steady_statement
    (fun o => if o.affected = 0 then .error (.objectNotFound id) else .ok ())
    (fun o => ?_) fun o => ?_
  · rw [pure_bind]
    split <;> rfl
  · rw [hs o]
    split <;> simp_all

theorem steady_fetchOptional {f : Row → Except StorageError α}
    (hs : ∀ o, s.Finds o ↔ ∀ r ∈ o.rows.head?, ∃ a, f r = .ok a) :
    Steady (fetchOptional s f) fun l _ => l = [s] := by
  refine steady_statement
    (fun o => o.rows.head?.elim (.ok none) fun r => (ofStorage (f r)).map some)
    (fun o => ?_) fun o => ?_
  · cases o.rows with
    | nil => rfl
    | cons r rows =>
      dsimp only [List.head?_cons, Option.elim_some]
      cases f r <;> rfl
  · rw [hs o]
    cases o.rows with
    | nil => simp
    | cons r rows => cases h : f r <;> simp [h, Except.map]

theorem steady_required {f : Row → Except StorageError α} {e : ServiceError}
    (hs : ∀ o, s.Finds o ↔ ∃ r ∈ o.rows.head?, ∃ a, f r = .ok a) :
    Steady (do
      match ← fetchOptional s f with
      | some a => return a
      | none => throw e) fun l _ => l = [s] := by
  rw [fetchOptional, bind_assoc]
  refine steady_statement (fun o => o.rows.head?.elim (.error e) fun r => ofStorage (f r))
    (fun o => ?_) fun o => ?_
  · cases o.rows with
    | nil => rfl
    | cons r rows =>
      dsimp only [List.head?_cons, Option.elim_some]
      cases f r <;> rfl
  · rw [hs o]
    cases o.rows with
    | nil => simp
    | cons r rows => cases h : f r <;> simp [h]

theorem steady_fetchOne {f : Row → Except StorageError α}
    (hs : ∀ o, s.Finds o ↔ ∃ r ∈ o.rows.head?, ∃ a, f r = .ok a) :
    Steady (fetchOne s f) fun l _ => l = [s] := steady_required hs

theorem steady_fetchOn {id : String} {f : Row → Except StorageError α}
    (hs : ∀ o, s.Finds o ↔ ∃ r ∈ o.rows.head?, ∃ a, f r = .ok a) :
    Steady (fetchOn id s f) fun l _ => l = [s] := steady_required hs

theorem steady_nextId (p : Post) :
    Steady (nextId p) fun l id => l = [.nextId p] ∧ ∃ n, id = p.kind.objectId n := by
  refine steady_bind (steady_fetchOne fun _ => Iff.rfl) ?_
  rintro _ n rfl
  exact steady_pure ⟨rfl, n, rfl⟩

end Storage

end Forum
