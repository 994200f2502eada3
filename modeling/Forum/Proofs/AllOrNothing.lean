import Forum.Proofs.Steady

/-!
# Changes that are made as a whole

Changes of more than one row are transactions. Whatever the database answers, such a change is
committed when each of its statements has found what it needs, and is given up at the first one
that has not.

* `Storage.Orderly`: what is sent for such a change, and how it ends;
* `Compound`, `Compound.Complete`: the changes of more than one row, and their statements;
* **`orderly_transaction`**: a transaction of a steady program is orderly;
* **`compound_orderly`**: the changes of more than one row are.
-/

namespace Forum

open Sql

namespace Storage

variable {α : Type} {t : Transcript StorageOp.Answer}

/-! ## Transactions -/

/-- The end of a transaction: it was not opened, or it is rolled back, or it is committed, or it is
to be committed and then rolled back. -/
def Closes (ops : List StorageOp) : Prop :=
  ops = [] ∨ ops = [.rollback] ∨ ops = [.commit] ∨ ops = [.commit, .rollback]

/-- What is sent for a change that is made as a whole, and how the change ends. -/
structure Orderly (complete : List Statement → Prop) (t : Transcript StorageOp.Answer)
    (r : Except ServiceError α) : Prop where
  /-- All statements are sent in one transaction, between its beginning and its end. -/
  bracketed : ∃ opened sent closing, t = ⟨.openTransaction, opened⟩ :: sent ++ closing ∧
    (∀ x ∈ sent, x.statement?.isSome) ∧ Closes (closing.map Exchange.op)
  /-- The transaction is to be committed exactly if all that was sent before has succeeded. -/
  commit_iff : (∃ x ∈ t, x.op = .commit) ↔ ∀ x ∈ t, x.op = .commit ∨ x.Succeeds
  /-- The change is made exactly if the transaction is committed. -/
  ok_iff : (∃ a, r = .ok a) ↔ ⟨.commit, .ok ()⟩ ∈ t
  /-- What does not succeed is followed by nothing but the rollback. -/
  stops : ∀ before x after, t = before ++ x :: after → ¬x.Succeeds → ∀ y ∈ after, y.op = .rollback
  /-- A transaction that is to be committed has all the statements of the change. -/
  complete : (∃ x ∈ t, x.op = .commit) → complete (statements t)

/-- The transcript of a transaction: it is not opened, or its body fails and it is rolled back, or
it is committed, or it should be and is rolled back. -/
theorem plays_transaction {body : Stored α} {r : Except ServiceError α}
    (h : (transaction body).run.Plays t r) :
    (∃ e, t = [⟨.openTransaction, .error e⟩] ∧ r = .error (.database e)) ∨
    (∃ sent e, body.run.Plays sent (.error e) ∧ r = .error e ∧
      t = ⟨.openTransaction, .ok ()⟩ :: sent ++ [⟨.rollback, ()⟩]) ∨
    ∃ sent a, body.run.Plays sent (.ok a) ∧
      (r = .ok a ∧ t = ⟨.openTransaction, .ok ()⟩ :: sent ++ [⟨.commit, .ok ()⟩] ∨
        ∃ e, r = .error (.database e) ∧
          t = ⟨.openTransaction, .ok ()⟩ :: sent ++ [⟨.commit, .error e⟩, ⟨.rollback, ()⟩]) := by
  obtain ⟨opened, rest, rfl, h⟩ := h
  cases opened with
  | error e =>
    obtain ⟨rfl, rfl⟩ := h
    exact .inl ⟨e, rfl, rfl⟩
  | ok x =>
    change (body.run >>= _).Plays rest r at h
    obtain ⟨sent, made, closing, hbody, hclosing, rfl⟩ := Program.plays_bind.mp h
    cases made with
    | error e =>
      obtain ⟨_, _, rfl, rfl, rfl⟩ := hclosing
      exact .inr (.inl ⟨sent, e, hbody, rfl, rfl⟩)
    | ok a =>
      obtain ⟨committed, _, rfl, hend⟩ := hclosing
      cases committed with
      | ok y =>
        obtain ⟨rfl, rfl⟩ := hend
        exact .inr (.inr ⟨sent, a, hbody, .inl ⟨rfl, rfl⟩⟩)
      | error e =>
        obtain ⟨_, _, rfl, rfl, rfl⟩ := hend
        exact .inr (.inr ⟨sent, a, hbody, .inr ⟨e, rfl, rfl⟩⟩)

/-- If only rollbacks follow what comes after operations that succeed, only rollbacks follow what
does not succeed. -/
theorem rollbacks_after {good bad : Transcript StorageOp.Answer} {last : Exchange StorageOp.Answer}
    (hgood : ∀ x ∈ good, x.Succeeds) (hbad : ∀ x ∈ bad, x.op = .rollback)
    (before : Transcript StorageOp.Answer) (x : Exchange StorageOp.Answer)
    (after : Transcript StorageOp.Answer) (h : good ++ last :: bad = before ++ x :: after)
    (hx : ¬x.Succeeds) : ∀ y ∈ after, y.op = .rollback := by
  intro y hy
  rcases List.append_eq_append_iff.mp h with ⟨between, rfl, hlast⟩ | ⟨between, rfl, hlast⟩
  · refine hbad y ?_
    cases between with
    | nil =>
      cases hlast
      exact hy
    | cons z between =>
      obtain ⟨-, rfl⟩ := List.cons.inj hlast
      exact List.mem_append_right _ (List.mem_cons_of_mem _ hy)
  · cases between with
    | nil =>
      cases hlast
      exact hbad y hy
    | cons z between =>
      obtain ⟨rfl, -⟩ := List.cons.inj hlast
      exact absurd (hgood x (by simp)) hx

theorem ne_commit_of_statement {x : Exchange StorageOp.Answer} (h : x.statement?.isSome) :
    x.op ≠ .commit := by
  intro hop
  obtain ⟨op, answer⟩ := x
  cases hop
  simp [Exchange.statement?] at h

/-- Nothing, or a rollback. -/
def Undone (t : Transcript StorageOp.Answer) : Prop := t = [] ∨ t = [⟨.rollback, ()⟩]

theorem Undone.op_eq (h : Undone t) : ∀ x ∈ t, x.op = .rollback := by
  rcases h with rfl | rfl <;> simp

theorem Undone.closes (h : Undone t) : Closes (t.map Exchange.op) := by
  rcases h with rfl | rfl
  · exact .inl rfl
  · exact .inr (.inl rfl)

theorem Undone.closes_cons {answer : Except StorageError Unit} (h : Undone t) :
    Closes ((⟨.commit, answer⟩ :: t : Transcript StorageOp.Answer).map Exchange.op) := by
  rcases h with rfl | rfl
  · exact .inr (.inr (.inl rfl))
  · exact .inr (.inr (.inr rfl))

theorem Undone.succeeds (h : Undone t) : ∀ x ∈ t, x.Succeeds := by
  rcases h with rfl | rfl <;> simp [Exchange.Succeeds]

theorem Undone.statements_eq (h : Undone t) : statements t = [] := by
  rcases h with rfl | rfl <;> rfl

/-- A change that is given up before its commit: something does not succeed, and nothing comes after
it but a rollback. -/
theorem orderly_givenUp {complete : List Statement → Prop} {r : Except ServiceError α}
    {good bad : Transcript StorageOp.Answer} {last : Exchange StorageOp.Answer}
    (hbracketed : ∃ opened sent closing, good ++ last :: bad =
      ⟨.openTransaction, opened⟩ :: sent ++ closing ∧
        (∀ x ∈ sent, x.statement?.isSome) ∧ Undone closing)
    (hgood : ∀ x ∈ good, x.Succeeds) (hlast : ¬last.Succeeds) (hbad : Undone bad)
    (hr : ∃ e, r = .error e) : Orderly complete (good ++ last :: bad) r := by
  obtain ⟨opened, sent, closing, ht, hsent, hclosing⟩ := hbracketed
  have uncommitted : ∀ x ∈ good ++ last :: bad, x.op ≠ .commit := by
    rw [ht]
    refine List.forall_mem_append.mpr ⟨List.forall_mem_cons.mpr ⟨nofun, ?_⟩, fun x hx => ?_⟩
    · exact fun x hx => ne_commit_of_statement (hsent x hx)
    · rw [hclosing.op_eq x hx]
      nofun
  have hmem : last ∈ good ++ last :: bad := by simp
  obtain ⟨e, rfl⟩ := hr
  refine ⟨⟨opened, sent, closing, ht, hsent, hclosing.closes⟩, ?_, ?_,
    rollbacks_after hgood hbad.op_eq, ?_⟩
  · constructor
    · rintro ⟨x, hx, hop⟩
      exact absurd hop (uncommitted x hx)
    · intro hall
      rcases hall last hmem with hop | hs
      · exact absurd hop (uncommitted last hmem)
      · exact absurd hs hlast
  · constructor
    · rintro ⟨a, ha⟩
      cases ha
    · intro hx
      exact absurd rfl (uncommitted _ hx)
  · rintro ⟨x, hx, hop⟩
    exact absurd hop (uncommitted x hx)

theorem orderly_committed {complete : List Statement → Prop} {r : Except ServiceError α}
    {sent more : Transcript StorageOp.Answer} {answer : Except StorageError Unit}
    (hsent : ∀ x ∈ sent, x.statement?.isSome) (hgood : ∀ x ∈ sent, x.Succeeds)
    (hcomplete : complete (statements sent)) (hmore : Undone more)
    (hanswer : answer = .ok () → more = []) (hr : (∃ a, r = .ok a) ↔ answer = .ok ()) :
    Orderly complete (⟨.openTransaction, .ok ()⟩ :: sent ++ ⟨.commit, answer⟩ :: more) r := by
  have succeeded : ∀ x ∈ (⟨.openTransaction, .ok ()⟩ : Exchange StorageOp.Answer) :: sent,
      x.Succeeds := List.forall_mem_cons.mpr ⟨rfl, hgood⟩
  refine ⟨⟨.ok (), sent, ⟨.commit, answer⟩ :: more, rfl, hsent, hmore.closes_cons⟩, ?_, ?_, ?_,
    fun _ => ?_⟩
  · refine ⟨fun _ => ?_, fun _ => ⟨⟨.commit, answer⟩, by simp, rfl⟩⟩
    refine List.forall_mem_append.mpr ⟨fun x hx => .inr (succeeded x hx), ?_⟩
    exact List.forall_mem_cons.mpr ⟨.inl rfl, fun x hx => .inr (hmore.succeeds x hx)⟩
  · rw [hr]
    constructor
    · rintro rfl
      simp
    · intro hx
      rcases List.mem_append.mp hx with hx | hx
      · rcases List.mem_cons.mp hx with hx | hx
        · cases hx
        · exact absurd rfl (ne_commit_of_statement (hsent _ hx))
      · rcases List.mem_cons.mp hx with hx | hx
        · cases hx
          rfl
        · cases hmore.op_eq _ hx
  · by_cases hok : answer = .ok ()
    · -- Nothing fails, so there is nothing to follow.
      intro before x after h hx
      have hall : ∀ y ∈ (⟨.openTransaction, .ok ()⟩ : Exchange StorageOp.Answer) :: sent ++
          ⟨.commit, answer⟩ :: more, y.Succeeds :=
        List.forall_mem_append.mpr ⟨succeeded, List.forall_mem_cons.mpr ⟨hok, hmore.succeeds⟩⟩
      exact absurd (hall x (by rw [h]; simp)) hx
    · exact rollbacks_after succeeded hmore.op_eq
  · have hnone : more.filterMap Exchange.statement? = [] := hmore.statements_eq
    rwa [statements, List.filterMap_append, List.filterMap_cons_none rfl,
      List.filterMap_cons_none rfl, hnone, List.append_nil]

/-- **A transaction of a steady program** is orderly. -/
theorem orderly_transaction {body : Stored α} {complete : List Statement → Prop}
    {r : Except ServiceError α} (hb : Steady body fun l _ => complete l)
    (h : (transaction body).run.Plays t r) : Orderly complete t r := by
  rcases plays_transaction h with ⟨e, rfl, rfl⟩ | ⟨sent, e, hbody, rfl, rfl⟩ |
    ⟨sent, a, hbody, ⟨rfl, rfl⟩ | ⟨e, rfl, rfl⟩⟩
  · rw [← List.nil_append [_]]
    exact orderly_givenUp ⟨.error e, [], [], rfl, List.forall_mem_nil _, .inl rfl⟩
      (List.forall_mem_nil _) nofun (.inl rfl) ⟨_, rfl⟩
  · obtain ⟨hsent, before, last, rfl, hbefore, hlast⟩ := hb _ _ hbody
    have ht : (⟨.openTransaction, .ok ()⟩ : Exchange StorageOp.Answer) :: (before ++ [last]) ++
        [⟨.rollback, ()⟩] = (⟨.openTransaction, .ok ()⟩ :: before) ++ last :: [⟨.rollback, ()⟩] := by
      simp
    rw [ht]
    exact orderly_givenUp ⟨.ok (), before ++ [last], _, ht.symm, hsent, .inr rfl⟩
      (List.forall_mem_cons.mpr ⟨rfl, hbefore⟩) hlast (.inr rfl) ⟨e, rfl⟩
  · obtain ⟨hsent, hgood, hcomplete⟩ := hb _ _ hbody
    exact orderly_committed hsent hgood hcomplete (.inl rfl) (fun _ => rfl) (by simp)
  · obtain ⟨hsent, hgood, hcomplete⟩ := hb _ _ hbody
    exact orderly_committed hsent hgood hcomplete (.inr rfl) nofun (by simp)

end Storage

/-! ## The changes of more than one row -/

/-- The changes of more than one row. -/
inductive Compound where
  | createAnswer (a : NewAnswer)
  | deleteAnswer (id : String)
  | acceptAnswer (questionId answerId : String)
  | recordVote (userId : String) (object : ObjectInfo) (up : Bool)
  | addAward (g : Grant)

namespace Compound

/-- The call of a change. -/
def call : Compound → Call
  | createAnswer a => .write (.createAnswer a)
  | deleteAnswer id => .write (.deleteAnswer id)
  | acceptAnswer q a => .write (.acceptAnswer q a)
  | recordVote u o up => .write (.recordVote u o up)
  | addAward g => .addAward g

/-- Is there something to change? There are no votes on tags and users. -/
def Applies : Compound → Prop
  | recordVote _ o _ => ∃ p, Post.ofKind? o.kind = some p
  | _ => True

/-- All the statements of a change. What an earlier one answers can be a parameter of a later
one. -/
def Complete : Compound → List Statement → Prop
  | createAnswer a, l => ∃ n, l = [.countAnswer a.questionId, .nextId .answer,
      .insertAnswer (ObjectKind.answer.objectId n) a]
  | deleteAnswer id, l => ∃ q, l = [.removeAnswer id, .uncountAnswer q id]
  | acceptAnswer q a, l => l = [.clearAccepted q, .markAccepted a q, .setAccepted q a]
  | recordVote u o up, l => ∃ p vote delta, Post.ofKind? o.kind = some p ∧
      (vote = .deleteVote u o.objectId ∨
        vote = .putVote u o.objectId o.kind (Storage.direction up)) ∧
      l = [.lockVote u o.objectId, vote, .addToVotes p delta o.objectId]
  | addAward g, l => l = [.insertAward g, .countAward g.badgeId]

end Compound

namespace Storage

variable {t : Transcript StorageOp.Answer}

theorem orderly_createAnswer {a : NewAnswer} {r : Except ServiceError String}
    (h : (createAnswer a).run.Plays t r) : Orderly (Compound.createAnswer a).Complete t r := by
  refine orderly_transaction ?_ h
  refine steady_bind (steady_executeOn fun _ => Iff.rfl) ?_
  rintro _ _ rfl
  refine steady_bind (steady_nextId .answer) ?_
  rintro _ _ ⟨rfl, n, rfl⟩
  refine steady_bind (steady_execute fun _ => trivial) ?_
  rintro _ _ rfl
  exact steady_pure ⟨n, rfl⟩

theorem orderly_deleteAnswer {id : String} {r : Except ServiceError Unit}
    (h : (deleteAnswer id).run.Plays t r) : Orderly (Compound.deleteAnswer id).Complete t r := by
  refine orderly_transaction ?_ h
  refine steady_bind (steady_fetchOn fun _ => Iff.rfl) ?_
  rintro _ q rfl
  refine steady_bind (steady_execute fun _ => trivial) ?_
  rintro _ _ rfl
  exact steady_pure ⟨q, rfl⟩

theorem orderly_acceptAnswer {q a : String} {r : Except ServiceError Unit}
    (h : (acceptAnswer q a).run.Plays t r) : Orderly (Compound.acceptAnswer q a).Complete t r := by
  refine orderly_transaction ?_ h
  refine steady_bind (steady_execute fun _ => trivial) ?_
  rintro _ _ rfl
  refine steady_bind (steady_executeOn fun _ => Iff.rfl) ?_
  rintro _ _ rfl
  refine steady_bind (steady_execute fun _ => trivial) ?_
  rintro _ _ rfl
  exact steady_pure rfl

theorem orderly_addAward {g : Grant} {r : Except ServiceError Int}
    (h : (addAward g).run.Plays t r) : Orderly (Compound.addAward g).Complete t r := by
  refine orderly_transaction ?_ h
  refine steady_bind (steady_fetchOne fun _ => Iff.rfl) ?_
  rintro _ _ rfl
  refine steady_bind (steady_execute fun _ => trivial) ?_
  rintro _ _ rfl
  exact steady_pure rfl

theorem steady_storeVote {u : String} {o : ObjectInfo} {earlier : Option Int} {up : Bool} :
    Steady (storeVote u o earlier up) fun l _ =>
      l = [.deleteVote u o.objectId] ∨ l = [.putVote u o.objectId o.kind (direction up)] := by
  unfold storeVote
  split
  · refine steady_bind (steady_execute fun _ => trivial) ?_
    rintro _ _ rfl
    exact steady_pure (.inl rfl)
  · refine steady_bind (steady_execute fun _ => trivial) ?_
    rintro _ _ rfl
    exact steady_pure (.inr rfl)

theorem orderly_votePost {p : Post} {u : String} {o : ObjectInfo} {up : Bool}
    {r : Except ServiceError VoteResult} (hp : Post.ofKind? o.kind = some p)
    (h : (votePost p u o up).run.Plays t r) :
    Orderly (Compound.recordVote u o up).Complete t r := by
  refine orderly_transaction ?_ h
  refine steady_bind (steady_fetchOptional fun _ => Iff.rfl) ?_
  rintro _ earlier rfl
  refine steady_bind steady_storeVote ?_
  intro stored vote hstored
  refine steady_bind (steady_fetchOn fun _ => Iff.rfl) ?_
  rintro _ _ rfl
  refine steady_pure ?_
  rcases hstored with rfl | rfl
  · exact ⟨p, _, _, hp, .inl rfl, rfl⟩
  · exact ⟨p, _, _, hp, .inr rfl, rfl⟩

theorem plays_recordVote_of_none {u : String} {o : ObjectInfo} {up : Bool}
    {r : Except ServiceError VoteResult} (ho : Post.ofKind? o.kind = none)
    (h : (recordVote u o up).run.Plays t r) : t = [] ∧ ∃ e, r = .error e := by
  rw [recordVote, ho] at h
  obtain ⟨rfl, rfl⟩ := h
  exact ⟨rfl, _, rfl⟩

end Storage

/-- **Changes of more than one row are made as a whole or not at all.** Whatever the database
answers, the statements of such a change are sent in one transaction; the transaction is to be
committed exactly if all that was sent has succeeded, and the change is made exactly if it is
committed; what does not succeed is followed by nothing but the rollback. A change that does not
apply is refused and nothing is sent. -/
theorem compound_orderly (c : Compound) (ttl : Option Nat) (s : Script StorageOp.Answer) :
    (c.Applies ∧ Storage.Orderly c.Complete (s.run (Storage.answer ttl c.call).run).2
      (s.run (Storage.answer ttl c.call).run).1) ∨
    (¬c.Applies ∧ (s.run (Storage.answer ttl c.call).run).2 = [] ∧
      ∃ e, (s.run (Storage.answer ttl c.call).run).1 = .error e) := by
  have h := s.plays_run (Storage.answer ttl c.call).run
  cases c with
  | createAnswer a => exact .inl ⟨trivial, Storage.orderly_createAnswer h⟩
  | deleteAnswer id => exact .inl ⟨trivial, Storage.orderly_deleteAnswer h⟩
  | acceptAnswer q a => exact .inl ⟨trivial, Storage.orderly_acceptAnswer h⟩
  | addAward g => exact .inl ⟨trivial, Storage.orderly_addAward h⟩
  | recordVote u o up =>
    cases hp : Post.ofKind? o.kind with
    | some p =>
      change (Storage.recordVote u o up).run.Plays _ _ at h
      rw [Storage.recordVote, hp] at h
      exact .inl ⟨⟨p, hp⟩, Storage.orderly_votePost hp h⟩
    | none =>
      have unvotable : ¬(Compound.recordVote u o up).Applies := by
        rintro ⟨p, hp'⟩
        rw [hp] at hp'
        cases hp'
      exact .inr ⟨unvotable, Storage.plays_recordVote_of_none hp h⟩

end Forum
