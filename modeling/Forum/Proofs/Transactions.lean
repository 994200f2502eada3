import Forum.Proofs.Readings
import Forum.Proofs.Rows
import Mathlib.Algebra.Ring.Int.Defs

/-!
# Concurrent transactions

Any number of programs over the storage run at once on the same rows, operation by operation in any
order; an operation can fail, and the answer to a commit can be lost.

* `Database`: how statements act on rows;
* `Database.perform`, `System.step`, `System.run`: one operation, one step and a run of a system;
* `Terms`: what each transaction may rely on while others run, and what is true when it commits;
* `Database.Serves`: a program alone keeps to its terms;
* **`serves_transaction`**: a transaction does if its body does;
* **`step_serves`**: programs that keep to their terms alone do so at once, and only commits change
  what is committed;
* **`run_account`**: what a run changes is the sum of what its commits change.
-/

namespace Forum

/-- How the statements of a transaction act on rows: what they answer, or none if they have to wait.
A statement changes neither what is committed nor what other transactions hold. -/
structure Database (K V : Type) where
  statement : Nat → Sql.Statement → Rows K V → Option (Sql.Outcome × Rows K V)
  frame : ∀ {i s t o t'}, statement i s t = some (o, t') →
    t'.committed = t.committed ∧ ∀ j, j ≠ i → t'.grip j = t.grip j

/-- What becomes of an operation: it is carried out, it fails, or it is carried out and its answer
is lost. -/
inductive Turn where
  | done
  | fails (e : StorageError)
  | lost (e : StorageError)

/-- A commit that is carried out. -/
def StorageOp.Commits : StorageOp → Turn → Prop
  | .commit, .done | .commit, .lost _ => True
  | _, _ => False

instance (op : StorageOp) (turn : Turn) : Decidable (op.Commits turn) := by
  unfold StorageOp.Commits
  split <;> infer_instance

namespace Database

variable {K V α β : Type} (db : Database K V) (i : Nat)

/-- An operation of a transaction: the answer and the rows, or none if it cannot be. A transaction
whose commit fails is rolled back. -/
def perform : (op : StorageOp) → Turn → Rows K V → Option (op.Answer × Rows K V)
  | .openTransaction, .done, t => some (.ok (), t)
  | .openTransaction, .fails e, t => some (.error e, t)
  | .run s, .done, t => (db.statement i s t).map fun (o, t) => (.ok o, t)
  | .run _, .fails e, t => some (.error e, t)
  | .commit, .done, t => some (.ok (), t.publish i)
  | .commit, .lost e, t => some (.error e, t.publish i)
  | .commit, .fails e, t => some (.error e, t.release i)
  | .rollback, .done, t => some ((), t.release i)
  | _, _, _ => none

variable {db i}

/-- **Only commits change what is committed**, and no transaction what another one holds. -/
theorem perform_frame {op : StorageOp} {turn : Turn} {t t' : Rows K V} {r : op.Answer}
    (h : db.perform i op turn t = some (r, t')) :
    t'.committed = (if op.Commits turn then t.publish i else t).committed ∧
      ∀ j, j ≠ i → t'.grip j = t.grip j := by
  cases op with
  | openTransaction =>
    cases turn <;> simp only [perform, Option.some.injEq, Prod.mk.injEq, reduceCtorEq] at h <;>
      obtain ⟨-, rfl⟩ := h <;> exact ⟨rfl, fun _ _ => rfl⟩
  | commit =>
    cases turn <;> simp only [perform, Option.some.injEq, Prod.mk.injEq] at h <;>
      obtain ⟨-, rfl⟩ := h
    · exact ⟨rfl, fun _ => Rows.grip_publish_of_ne⟩
    · exact ⟨rfl, fun _ => Rows.grip_release_of_ne⟩
    · exact ⟨rfl, fun _ => Rows.grip_publish_of_ne⟩
  | rollback =>
    cases turn <;> simp only [perform, Option.some.injEq, Prod.mk.injEq, reduceCtorEq] at h
    obtain ⟨-, rfl⟩ := h
    exact ⟨rfl, fun _ => Rows.grip_release_of_ne⟩
  | run s =>
    cases turn <;> simp only [perform, Option.some.injEq, Prod.mk.injEq, reduceCtorEq,
      Option.map_eq_some_iff] at h
    · obtain ⟨⟨o, t₁⟩, hs, -, rfl⟩ := h
      exact db.frame hs
    · obtain ⟨-, rfl⟩ := h
      exact ⟨rfl, fun _ _ => rfl⟩
  | cache c => cases turn <;> cases h

end Database

/-! ## Programs alone -/

/-- The terms on which transactions run at once: what each may rely on while others run, and what is
true of the rows whenever it commits. Nothing that the others do is against what it relies on. -/
structure Terms (K V : Type) where
  relies : Nat → Rows K V → Rows K V → Prop
  atCommit : Nat → Rows K V → Prop
  refl : ∀ i t, relies i t t
  trans : ∀ {i t t' t''}, relies i t t' → relies i t' t'' → relies i t t''
  grip : ∀ {i t t'}, relies i t t' → t'.grip i = t.grip i
  others : ∀ {i j t t'}, j ≠ i → t'.grip i = t.grip i →
    (t'.committed = t.committed ∨ atCommit j t ∧ t'.committed = (t.publish j).committed) →
      relies i t t'

namespace Database

variable {K V α β : Type} (db : Database K V) (i : Nat) (T : Terms K V)

/-- Whatever a program of a transaction is answered, and whatever others do meanwhile that it relies
on: its commits are on its terms, and it ends with `post`. -/
def Serves (post : α → Rows K V → Prop) :
    Program StorageOp StorageOp.Answer α → Rows K V → Prop
  | .done a, t => post a t
  | .ask op next, t => ∀ (t₁ : Rows K V) (turn : Turn) r t₂, T.relies i t t₁ →
      db.perform i op turn t₁ = some (r, t₂) →
        (op.Commits turn → T.atCommit i t₁) ∧ Serves post (next r) t₂

variable {db i T} {t : Rows K V}

theorem Serves.mono {post post' : α → Rows K V → Prop} {p : Storage α}
    (h : db.Serves i T post p t) (hpost : ∀ a t, post a t → post' a t) :
    db.Serves i T post' p t := by
  induction p generalizing t with
  | done a => exact hpost a t h
  | ask op next ih =>
    intro t₁ turn r t₂ hr hp
    obtain ⟨hc, hn⟩ := h t₁ turn r t₂ hr hp
    exact ⟨hc, ih r hn⟩

theorem Serves.bind {post : β → Rows K V → Prop} {p : Storage α} {f : α → Storage β}
    (h : db.Serves i T (fun a => db.Serves i T post (f a)) p t) :
    db.Serves i T post (p >>= f) t := by
  induction p generalizing t with
  | done a => exact h
  | ask op next ih =>
    intro t₁ turn r t₂ hr hp
    obtain ⟨hc, hn⟩ := h t₁ turn r t₂ hr hp
    exact ⟨hc, ih r hn⟩

/-- A condition on a result that is not a failure. -/
def onSuccess (post : α → Rows K V → Prop) : Except ServiceError α → Rows K V → Prop
  | .ok a, t => post a t
  | .error _, _ => True

theorem Serves.map {post : β → Rows K V → Prop} {p : Storage α} {f : α → β}
    (h : db.Serves i T (fun a => post (f a)) p t) : db.Serves i T post (f <$> p) t :=
  Serves.bind (h.mono fun _ _ ha => ha)

theorem Serves.bind_except {post : β → Rows K V → Prop} {p : Stored α} {f : α → Stored β}
    (h : db.Serves i T (onSuccess fun a => db.Serves i T (onSuccess post) (f a).run) p.run t) :
    db.Serves i T (onSuccess post) (p >>= f).run t := by
  rw [ExceptT.run_bind]
  refine Serves.bind (h.mono fun r t' hr => ?_)
  cases r with
  | ok a => exact hr
  | error e => trivial

theorem serves_pure {post : α → Rows K V → Prop} {a : α} (h : post a t) :
    db.Serves i T (onSuccess post) (pure a : Stored α).run t := h

theorem serves_ask {op : StorageOp} {post : op.Answer → Rows K V → Prop}
    (h : ∀ t₁ turn r t₂, T.relies i t t₁ → db.perform i op turn t₁ = some (r, t₂) →
      (op.Commits turn → T.atCommit i t₁) ∧ post r t₂) :
    db.Serves i T post (Storage.ask op) t := h

theorem serves_send {s : Sql.Statement} {post : Sql.Outcome → Rows K V → Prop}
    (h : ∀ t₁ o t₂, T.relies i t t₁ → db.statement i s t₁ = some (o, t₂) → post o t₂) :
    db.Serves i T (onSuccess post) (Storage.send s).run t := by
  refine Serves.bind (serves_ask fun t₁ turn r t₂ hr hp => ⟨fun hc => hc.elim, ?_⟩)
  cases turn with
  | done =>
    obtain ⟨⟨o, t'⟩, hs, he⟩ := Option.map_eq_some_iff.mp hp
    cases he
    exact h t₁ o t₂ hr hs
  | fails e =>
    cases hp
    trivial
  | lost e => cases hp

section Readings

variable {s : Sql.Statement} {id : String}

theorem serves_execute {post : Nat → Rows K V → Prop}
    (h : db.Serves i T (onSuccess fun o => post o.affected) (Storage.send s).run t) :
    db.Serves i T (onSuccess post) (Storage.execute s).run t := by
  rw [Storage.run_execute]
  refine (h.mono fun r t₁ hr => ?_).map
  cases r with
  | error e => trivial
  | ok o => exact hr

theorem serves_executeOn {post : Rows K V → Prop}
    (h : db.Serves i T (onSuccess fun o t₁ => o.affected ≠ 0 → post t₁) (Storage.send s).run t) :
    db.Serves i T (onSuccess fun _ => post) (Storage.executeOn id s).run t := by
  rw [Storage.run_executeOn]
  refine (h.mono fun r t₁ hr => ?_).map
  cases r with
  | error e => trivial
  | ok o =>
    by_cases ho : o.affected = 0
    · simp only [Except.bind, if_pos ho]
      trivial
    · simp only [Except.bind, if_neg ho]
      exact hr ho

section FirstRow

variable {f : Sql.Row → Except StorageError α} {post : α → Rows K V → Prop}
  (h : db.Serves i T (onSuccess fun o t₁ => ∀ r rest a, o.rows = r :: rest → f r = .ok a →
    post a t₁) (Storage.send s).run t)

include h

theorem serves_required {e : ServiceError} :
    db.Serves i T (onSuccess post) ((fun r : Except ServiceError Sql.Outcome =>
      r.bind fun o => (Storage.first f o).bind (Storage.required e)) <$> (Storage.send s).run) t := by
  refine (h.mono fun r t₁ hr => ?_).map
  cases r with
  | error e => trivial
  | ok o =>
    obtain ⟨rows, affected⟩ := o
    cases rows with
    | nil => trivial
    | cons r rest =>
      have hrow : ∀ a, f r = .ok a → post a t₁ := fun a => hr r rest a rfl
      rw [Except.bind, Storage.first_cons]
      cases hf : f r with
      | error e => trivial
      | ok a => exact hrow a hf

theorem serves_fetchOne : db.Serves i T (onSuccess post) (Storage.fetchOne s f).run t := by
  rw [Storage.run_fetchOne]
  exact serves_required h

theorem serves_fetchOn : db.Serves i T (onSuccess post) (Storage.fetchOn id s f).run t := by
  rw [Storage.run_fetchOn]
  exact serves_required h

end FirstRow

end Readings

/-- A transaction that has ended holds nothing. -/
def Ended (i : Nat) (t : Rows K V) : Prop := t.grip i = Grips.nothing

theorem serves_rollback {r : Except ServiceError α} :
    db.Serves i T (fun _ => Ended i) (do Storage.ask .rollback; return r) t := by
  refine Serves.bind (serves_ask fun t₁ turn _ t₂ _ hp => ⟨fun hc => hc.elim, ?_⟩)
  cases turn <;> cases hp
  exact Rows.grip_release_self

/-- **A transaction** keeps to its terms if its body, from nothing held, ends with what is true of a
commit whatever others do then. After it nothing is held. -/
theorem serves_transaction {body : Stored α} (ht : Ended i t)
    (h : ∀ t₁, T.relies i t t₁ →
      db.Serves i T (onSuccess fun _ t₂ => ∀ t₃, T.relies i t₂ t₃ → T.atCommit i t₃) body.run t₁) :
    db.Serves i T (fun _ => Ended i) (Storage.transaction body).run t := by
  refine Serves.bind (serves_ask fun t₁ turn opened t₂ hr hp => ⟨fun hc => hc.elim, ?_⟩)
  cases turn with
  | lost e => cases hp
  | fails e =>
    cases hp
    exact (T.grip hr).trans ht
  | done =>
    cases hp
    refine Serves.bind ((h t₁ hr).mono fun r t₂ hend => ?_)
    cases r with
    | error e => exact serves_rollback
    | ok a =>
      refine Serves.bind (serves_ask fun t₃ turn _ t₄ hr₃ hp => ⟨fun _ => hend t₃ hr₃, ?_⟩)
      cases turn <;> cases hp
      · exact Rows.grip_publish_self
      · exact serves_rollback
      · exact serves_rollback

end Database

/-! ## Programs at once -/

/-- The rows, and the programs that run on them, each a transaction named by its place. -/
structure System (K V α : Type) where
  rows : Rows K V
  programs : List (Storage α)

namespace System

variable {K V α : Type} (db : Database K V)

/-- Is the next operation of a program a commit that is carried out in this turn? -/
def Commits (s : System K V α) (l : Nat × Turn) : Prop :=
  match s.programs[l.1]? with
  | some (Program.ask op _) => op.Commits l.2
  | _ => False

instance (s : System K V α) (l : Nat × Turn) : Decidable (s.Commits l) := by
  unfold Commits
  split <;> infer_instance

/-- One program makes its next operation, if it can. -/
def step (s : System K V α) (l : Nat × Turn) : Option (System K V α) :=
  match s.programs[l.1]? with
  | some (Program.ask op next) =>
    (db.perform l.1 op l.2 s.rows).map fun (r, rows) => ⟨rows, s.programs.set l.1 (next r)⟩
  | _ => none

/-- Steps of the programs in some order. -/
def run (s : System K V α) (ls : List (Nat × Turn)) : Option (System K V α) := ls.foldlM (step db) s

/-- Every program keeps to its terms, from rows since which others have done only what it relies
on. -/
def Serves (T : Terms K V) (s : System K V α) : Prop :=
  ∀ i p, s.programs[i]? = some p →
    ∃ t, T.relies i t s.rows ∧ db.Serves i T (fun _ => Database.Ended i) p t

variable {db} {T : Terms K V} {s s' : System K V α} {l : Nat × Turn}

theorem serves_map {C : Type} {cs : List C} {program : C → Storage α} {committed : K → Option V}
    (h : ∀ i c t, cs[i]? = some c → Database.Ended i t →
      db.Serves i T (fun _ => Database.Ended i) (program c) t) :
    Serves db T ⟨⟨committed, fun _ => none⟩, cs.map program⟩ := by
  intro i p hp
  obtain ⟨c, hc, rfl⟩ := Option.map_eq_some_iff.mp (List.getElem?_map.symm.trans hp)
  exact ⟨_, T.refl _ _, h i c _ hc rfl⟩

/-- **A step** leaves all programs on their terms. Only a commit changes what is committed, and the
commit is on its terms. -/
theorem step_serves (hs : s.Serves db T) (h : s.step db l = some s') :
    s'.Serves db T ∧ (s.Commits l → T.atCommit l.1 s.rows) ∧
      s'.rows.committed = (if s.Commits l then s.rows.publish l.1 else s.rows).committed := by
  obtain ⟨i, turn⟩ := l
  unfold step at h
  cases hp : s.programs[i]? with
  | none => simp [hp] at h
  | some p =>
    cases p with
    | done a => simp [hp] at h
    | ask op next =>
      simp only [hp, Option.map_eq_some_iff] at h
      obtain ⟨⟨r, rows⟩, hr, rfl⟩ := h
      have hcommits : s.Commits (i, turn) ↔ op.Commits turn := by simp [Commits, hp]
      obtain ⟨t, ht, hserves⟩ := hs i _ hp
      obtain ⟨hP, hnext⟩ := hserves s.rows turn r rows ht hr
      obtain ⟨hcommitted, hgrips⟩ := db.perform_frame hr
      refine ⟨fun j p hj => ?_, fun hc => hP (hcommits.mp hc), ?_⟩
      · change (s.programs.set i (next r))[j]? = some p at hj
        by_cases hne : j = i
        · subst hne
          rw [List.getElem?_set_self (List.getElem?_eq_some_iff.mp hp).1, Option.some.injEq] at hj
          exact ⟨rows, T.refl _ _, hj ▸ hnext⟩
        · rw [List.getElem?_set_ne (Ne.symm hne)] at hj
          obtain ⟨t', ht', hserves'⟩ := hs j p hj
          refine ⟨t', T.trans ht' (T.others (Ne.symm hne) (hgrips j hne) ?_), hserves'⟩
          by_cases hc : op.Commits turn
          · exact .inr ⟨hP hc, by rw [if_pos hc] at hcommitted; exact hcommitted⟩
          · exact .inl (by rw [if_neg hc] at hcommitted; exact hcommitted)
      · simpa only [hcommits] using hcommitted

variable (db) in
/-- The commits of a run: the transaction, and the rows before it. -/
def commits (s : System K V α) : List (Nat × Turn) → List (Nat × Rows K V)
  | [] => []
  | l :: ls =>
    match s.step db l with
    | some s' => if s.Commits l then (l.1, s.rows) :: commits s' ls else commits s' ls
    | none => []

theorem atCommit_of_mem_commits {ls : List (Nat × Turn)} (hs : s.Serves db T)
    {c : Nat × Rows K V} (hc : c ∈ s.commits db ls) : T.atCommit c.1 c.2 := by
  induction ls generalizing s with
  | nil => cases hc
  | cons l ls ih =>
    cases h : s.step db l with
    | none => simp [commits, h] at hc
    | some s₁ =>
      obtain ⟨hs₁, hP, -⟩ := step_serves hs h
      simp only [commits, h] at hc
      split at hc
      · next hl =>
        rcases List.mem_cons.mp hc with rfl | hc
        · exact hP hl
        · exact ih hs₁ hc
      · exact ih hs₁ hc

/-- **A run is its commits.** What every commit keeps of the commits so far and of what is
committed, a run keeps. -/
theorem run_commits (Inv : List (Nat × Rows K V) → (K → Option V) → Prop)
    (step : ∀ l i t, T.atCommit i t → Inv l t.committed →
      Inv (l ++ [(i, t)]) (t.publish i).committed)
    {ls : List (Nat × Turn)} {before : List (Nat × Rows K V)} (hs : s.Serves db T)
    (h0 : Inv before s.rows.committed) (h : s.run db ls = some s') :
    Inv (before ++ s.commits db ls) s'.rows.committed := by
  induction ls generalizing s before with
  | nil =>
    cases h
    simpa [commits] using h0
  | cons l ls ih =>
    rw [run, List.foldlM_cons] at h
    obtain ⟨s₁, h₁, h₂⟩ := Option.bind_eq_some_iff.mp h
    obtain ⟨hs₁, hP, hc⟩ := step_serves hs h₁
    simp only [commits, h₁]
    by_cases hl : s.Commits l
    · rw [if_pos hl] at hc ⊢
      have hi := step before l.1 s.rows (hP hl) h0
      have hrest := ih hs₁ (hc ▸ hi) h₂
      rwa [List.append_assoc, List.singleton_append] at hrest
    · rw [if_neg hl] at hc ⊢
      exact ih hs₁ (hc ▸ h0) h₂

/-- **A run accounts for its commits.** A quantity of what is committed, which each commit moves by
some amount, is moved by a run by the sum over its commits. -/
theorem run_account (Inv : (K → Option V) → Prop) (quantity : (K → Option V) → Int)
    (amount : Nat → Rows K V → Int)
    (hinv : ∀ i t, T.atCommit i t → Inv t.committed → Inv (t.publish i).committed)
    (hmove : ∀ i t, T.atCommit i t → Inv t.committed →
      quantity (t.publish i).committed = quantity t.committed + amount i t)
    {ls : List (Nat × Turn)} (hs : s.Serves db T) (h0 : Inv s.rows.committed)
    (h : s.run db ls = some s') :
    quantity s'.rows.committed =
      quantity s.rows.committed + ((s.commits db ls).map fun c => amount c.1 c.2).sum := by
  let Moved (l : List (Nat × Rows K V)) (committed : K → Option V) : Prop :=
    Inv committed ∧
      quantity committed = quantity s.rows.committed + (l.map fun c => amount c.1 c.2).sum
  have hstep : ∀ l i t, T.atCommit i t → Moved l t.committed →
      Moved (l ++ [(i, t)]) (t.publish i).committed := by
    rintro l i t hP ⟨hi, hq⟩
    refine ⟨hinv i t hP hi, ?_⟩
    rw [hmove i t hP hi, hq, List.map_append, List.sum_append, List.map_singleton,
      List.sum_singleton, Int.add_assoc]
  have hstart : Moved [] s.rows.committed := ⟨h0, by simp⟩
  exact (run_commits Moved hstep hs hstart h).2

end System

end Forum
