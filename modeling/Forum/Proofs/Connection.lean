import Forum.Proofs.Readings
import Forum.Proofs.Tables
import Forum.Proofs.Transactions
import Forum.Storage.Content

/-!
# One connection

Programs that run one after another on tables that nobody else uses. Any operation can fail, and an
answer can be lost after the operation has been carried out. A statement outside of a transaction is
stored at once.

* `Tables.Course`: what becomes of the operations;
* `Tables.Connection`, `Course.perform`, `Course.run`: the tables, one operation, and a program;
* `Tables.Mode`, `Course.Does`: what a program makes of the tables, in a transaction or not;
* **`does_bind`**, **`does_bind_except`**, **`does_send`**: sequences and statements;
* **`does_transaction`**: a transaction does what its body does, or nothing;
* **`keeps_change_of_rowOps`**: what every statement keeps, every change of content keeps;
* **`keeps_changes`**: what each change of content keeps, they keep one after another;
* `working_changes`: they leave no transaction open.
-/

namespace Forum.Tables

open Sql Storage

/-- What becomes of the operations, by how many there have been before: how each turns out, the
number that a sequence then gives, and the error of a statement that is refused. -/
structure Course where
  turn : Nat → Turn
  number : Nat → Int
  refusal : StorageError

/-- Operations fail, or are carried out and answered. -/
def Course.failing (failure : Nat → Option StorageError) (number : Nat → Int)
    (refusal : StorageError) : Course :=
  ⟨fun n => (failure n).elim .done .fails, number, refusal⟩

/-- The tables that are stored, what an open transaction has made of them, and how many operations
there have been. -/
structure Connection where
  stored : Tables
  working : Option Tables := none
  clock : Nat := 0

namespace Connection

/-- The tables that a statement finds. -/
def tables (c : Connection) : Tables := c.working.getD c.stored

/-- The tables after a statement: outside of a transaction they are stored at once. -/
def put (c : Connection) (T : Tables) : Connection :=
  match c.working with
  | some _ => { c with working := some T }
  | none => { c with stored := T }

/-- One more operation. -/
def tick (c : Connection) : Connection := { c with clock := c.clock + 1 }

end Connection

namespace Course

variable (s : Course)

/-- A statement, as it turns out. A cache is not asked. -/
noncomputable def perform : (op : StorageOp) → StateM Connection op.Answer
  | .openTransaction, c =>
    match s.turn c.clock with
    | .done => (.ok (), { c.tick with working := some c.stored })
    | .fails e | .lost e => (.error e, c.tick)
  | .run st, c =>
    match s.turn c.clock, execute c.tables (s.number c.clock) st with
    | .fails e, _ | .lost e, none => (.error e, c.tick)
    | .done, none => (.error s.refusal, c.tick)
    | .done, some (o, T) => (.ok o, c.tick.put T)
    | .lost e, some (_, T) => (.error e, c.tick.put T)
  | .commit, c =>
    match s.turn c.clock with
    | .done => (.ok (), { c.tick with stored := c.tables, working := none })
    | .lost e => (.error e, { c.tick with stored := c.tables, working := none })
    | .fails e => (.error e, { c.tick with working := none })
  | .rollback, c => ((), { c.tick with working := none })
  | .cache _, c => (.error (.redis ""), c.tick)

/-- A program from a connection on: its result and the connection after it. -/
noncomputable def run {α : Type} (p : Storage α) (c : Connection) : α × Connection :=
  (Program.run s.perform p).run c

end Course

/-! ## What statements keep -/

/-- What a statement does to rows keeps something of the tables. -/
def RowOp.Keeps (I : Tables → Prop) (op : RowOp) : Prop :=
  ∀ T r T', I T → op.apply T = some (r, T') → I T'

namespace RowOp

variable {I : Tables → Prop} {k : Key}

theorem keeps_nothing : nothing.Keeps I := by
  rintro T r T' hT ⟨⟩
  exact hT

theorem keeps_alter {f : Row → Option Row} (h : ∀ T, I T → I (Tables.alter T k f)) :
    (alter k f).Keeps I := by
  rintro T r T' hT ⟨⟩
  exact h T hT

theorem keeps_delete (h : ∀ T, I T → I (Function.update T k none)) : (delete k).Keeps I := by
  rintro T r T' hT ⟨⟩
  exact h T hT

theorem keeps_make {needs : List Key} {f : Option Row → Option Row}
    (h : ∀ T v, I T → f (T k) = some v → I (Function.update T k (some v))) :
    (make k needs f).Keeps I := by
  intro T r T' hT happly
  rw [apply] at happly
  split at happly
  · obtain ⟨v, hv, he⟩ := Option.map_eq_some_iff.mp happly
    cases he
    exact h T v hT hv
  · cases happly

theorem keeps_insert {needs : List Key} {v : Row}
    (h : ∀ T, I T → T k = none → I (Function.update T k (some v))) :
    (insert k needs v).Keeps I := by
  refine keeps_make fun T w hT hw => ?_
  cases hk : T k with
  | some w' => simp [hk] at hw
  | none =>
    rw [hk, Option.some.injEq] at hw
    rw [← hw]
    exact h T hT hk

end RowOp

/-! ## What a program makes of the tables -/

/-- Where a program runs: in a transaction, beside what is stored, or on what is stored. -/
inductive Mode where
  | within (stored : Tables)
  | alone

/-- The tables that a program finds. -/
def Mode.At : Mode → Tables → Connection → Prop
  | .within T₀, T, c => c.stored = T₀ ∧ c.working = some T
  | .alone, T, c => c.stored = T ∧ c.working = none

namespace Course

variable {α β : Type} {s : Course} {m : Mode} {T : Tables}

theorem run_bind {p : Storage α} {f : α → Storage β} {c : Connection} :
    s.run (p >>= f) c = s.run (f (s.run p c).1) (s.run p c).2 := by
  rw [run, Program.run_bind, StateT.run_bind]
  rfl

theorem run_ask {op : StorageOp} {c : Connection} : s.run (ask op) c = s.perform op c := by
  rw [run, ask, Program.perform, Program.run]
  exact congrFun (bind_pure (s.perform op)) c

variable (s m) in
/-- **What a program makes of the tables**: from these it ends with tables and a result of which
`post` is true. -/
def Does (p : Storage α) (T : Tables) (post : α → Tables → Prop) : Prop :=
  ∀ c, m.At T c → ∃ T', m.At T' (s.run p c).2 ∧ post (s.run p c).1 T'

theorem does_pure {post : α → Tables → Prop} {a : α} (h : post a T) :
    s.Does m (pure a) T post := fun _ hc => ⟨T, hc, h⟩

theorem Does.mono {post post' : α → Tables → Prop} {p : Storage α} (h : s.Does m p T post)
    (hpost : ∀ a T', post a T' → post' a T') : s.Does m p T post' := by
  intro c hc
  obtain ⟨T', hT', ha⟩ := h c hc
  exact ⟨T', hT', hpost _ _ ha⟩

/-- **A sequence.** -/
theorem does_bind {post : β → Tables → Prop} {p : Storage α} {f : α → Storage β}
    (h : s.Does m p T fun a T' => s.Does m (f a) T' post) : s.Does m (p >>= f) T post := by
  intro c hc
  obtain ⟨T', hT', hf⟩ := h c hc
  rw [run_bind]
  exact hf _ hT'

theorem does_map {post : β → Tables → Prop} {p : Storage α} {f : α → β}
    (h : s.Does m p T fun a T' => post (f a) T') : s.Does m (f <$> p) T post :=
  does_bind (h.mono fun _ _ ha => does_pure ha)

end Course

/-- How a program ends: well, or not. -/
def Ends {α : Type} (good : α → Tables → Prop) (bad : ServiceError → Tables → Prop) :
    Except ServiceError α → Tables → Prop
  | .ok a, T => good a T
  | .error e, T => bad e T

namespace Course

variable {α β : Type} {s : Course} {m : Mode} {T : Tables} {bad : ServiceError → Tables → Prop}

/-- **A sequence** that ends at its first failure. -/
theorem does_bind_except {good : β → Tables → Prop} {p : Stored α} {f : α → Stored β}
    (h : s.Does m p.run T (Ends (fun a T' => s.Does m (f a).run T' (Ends good bad)) bad)) :
    s.Does m (p >>= f).run T (Ends good bad) := by
  rw [ExceptT.run_bind]
  refine does_bind (h.mono fun r T' hr => ?_)
  cases r with
  | ok a => exact hr
  | error e => exact does_pure hr

theorem does_seq {good : β → Tables → Prop} {mid : α → Tables → Prop} {p : Stored α}
    {f : α → Stored β} (hp : s.Does m p.run T (Ends mid bad))
    (hf : ∀ a T', mid a T' → s.Does m (f a).run T' (Ends good bad)) :
    s.Does m (p >>= f).run T (Ends good bad) := by
  refine does_bind_except (hp.mono fun r T' hr => ?_)
  cases r with
  | ok a => exact hf a T' hr
  | error e => exact hr

/-! ## Statements

Where a failure is undone, nothing is asked of the tables after it, but only of its error: `B`. -/

variable {B : ServiceError → Prop}

variable (s) in
/-- Some operation ends in this error. -/
def Fails (e : StorageError) : Prop := ∃ n, s.turn n = .fails e ∨ s.turn n = .lost e

variable (s) in
/-- Some operation is carried out and ends in this error. -/
def Loses (e : StorageError) : Prop := ∃ n, s.turn n = .lost e

theorem Loses.fails {e : StorageError} (h : s.Loses e) : s.Fails e := by
  obtain ⟨n, hn⟩ := h
  exact ⟨n, .inr hn⟩

theorem tables_eq {c : Connection} (h : m.At T c) : c.tables = T := by
  cases m with
  | within T₀ => rw [Connection.tables, h.2, Option.getD_some]
  | alone => rw [Connection.tables, h.2, Option.getD_none, h.1]

theorem at_tick {c : Connection} (h : m.At T c) : m.At T c.tick := by
  cases m <;> exact h

theorem at_put {c : Connection} {T' : Tables} (h : m.At T c) : m.At T' (c.tick.put T') := by
  obtain ⟨stored, working, clock⟩ := c
  cases m with
  | within T₀ =>
    obtain ⟨rfl, rfl⟩ := h
    exact ⟨rfl, rfl⟩
  | alone =>
    obtain ⟨rfl, rfl⟩ := h
    exact ⟨rfl, rfl⟩

/-- **A statement**: it fails, or it is refused, or it is carried out, and then its answer may be
lost. -/
theorem does_send {st : Statement} {good : Outcome → Tables → Prop}
    (fails : ∀ e, s.Fails e → bad (.database e) T)
    (refused : ∀ n, execute T n st = none → bad (.database s.refusal) T)
    (done : ∀ n o T', execute T n st = some (o, T') →
      good o T' ∧ ∀ e, s.Loses e → bad (.database e) T') :
    s.Does m (send st).run T (Ends good bad) := by
  refine does_map (f := ofStorage) fun c hc => ?_
  rw [run_ask]
  have htables : c.tables = T := tables_eq hc
  simp only [perform, htables]
  cases hturn : s.turn c.clock with
  | fails e => exact ⟨T, at_tick hc, fails e ⟨_, .inl hturn⟩⟩
  | done =>
    cases hst : execute T (s.number c.clock) st with
    | none => exact ⟨T, at_tick hc, refused _ hst⟩
    | some r => exact ⟨r.2, at_put hc, (done _ r.1 r.2 hst).1⟩
  | lost e =>
    cases hst : execute T (s.number c.clock) st with
    | none => exact ⟨T, at_tick hc, fails e ⟨_, .inr hturn⟩⟩
    | some r => exact ⟨r.2, at_put hc, (done _ r.1 r.2 hst).2 e ⟨_, hturn⟩⟩

/-- **A statement with the reading of its reply.** -/
theorem does_statement {st : Statement} {p : Stored α} {read : Outcome → Except ServiceError α}
    {good : α → Tables → Prop} (hp : p.run = (fun r => r.bind read) <$> (send st).run)
    (fails : ∀ e, s.Fails e → bad (.database e) T)
    (refused : ∀ n, execute T n st = none → bad (.database s.refusal) T)
    (done : ∀ n o T', execute T n st = some (o, T') →
      Ends good bad (read o) T' ∧ ∀ e, s.Loses e → bad (.database e) T') :
    s.Does m p.run T (Ends good bad) := by
  rw [hp]
  refine does_map ((does_send fails refused done).mono fun r T' hr => ?_)
  cases r with
  | ok o => exact hr
  | error e => exact hr

theorem does_alter {st : Statement} {p : Stored α} {read : Outcome → Except ServiceError α}
    {good : α → Tables → Prop} {k : Key} {f : Row → Option Row}
    (hp : p.run = (fun r => r.bind read) <$> (send st).run)
    (hop : ∀ n, rowOp n st = some (.alter k f)) (fails : ∀ e, s.Fails e → B (.database e))
    (done : ∀ n, Ends good (fun e _ => B e) (read (outcome n st ((T k).bind f).toList
      ((T k).bind f).toList.length)) (alter T k f)) :
    s.Does m p.run T (Ends good fun e _ => B e) := by
  have hexecute : ∀ n, execute T n st = some (outcome n st ((T k).bind f).toList
      ((T k).bind f).toList.length, alter T k f) := fun n => by rw [execute, hop]; rfl
  refine does_statement hp fails (fun n hn => ?_) fun n o T' h => ⟨?_, fun e he => fails e he.fails⟩
  · rw [hexecute] at hn
    cases hn
  · rw [hexecute] at h
    cases h
    exact done n

theorem does_alter_cases {st : Statement} {p : Stored α} {read : Outcome → Except ServiceError α}
    {good : α → Tables → Prop} {k : Key} {f : Row → Option Row}
    (hp : p.run = (fun r => r.bind read) <$> (send st).run)
    (hop : ∀ n, rowOp n st = some (.alter k f)) (fails : ∀ e, s.Fails e → B (.database e))
    (missed : ∀ n, (T k).bind f = none →
      Ends good (fun e _ => B e) (read (outcome n st [] 0)) T)
    (altered : ∀ n v, (T k).bind f = some v →
      Ends good (fun e _ => B e) (read (outcome n st [v] 1)) (Function.update T k (some v))) :
    s.Does m p.run T (Ends good fun e _ => B e) := by
  refine does_alter hp hop fails fun n => ?_
  cases hf : (T k).bind f with
  | none =>
    rw [alter_of_none hf]
    exact missed n hf
  | some v =>
    rw [alter_of_some hf]
    exact altered n v hf

theorem does_make {st : Statement} {p : Stored α} {read : Outcome → Except ServiceError α}
    {good : α → Tables → Prop} {k : Key} {needs : List Key} {f : Option Row → Option Row}
    (hp : p.run = (fun r => r.bind read) <$> (send st).run)
    (hop : ∀ n, rowOp n st = some (.make k needs f)) (fails : ∀ e, s.Fails e → B (.database e))
    (refused : (∃ k ∈ needs, T k = none) ∨ f (T k) = none → B (.database s.refusal))
    (made : ∀ n v, f (T k) = some v →
      Ends good (fun e _ => B e) (read (outcome n st [v] 1)) (Function.update T k (some v))) :
    s.Does m p.run T (Ends good fun e _ => B e) := by
  by_cases hneeds : ∀ k ∈ needs, T k ≠ none
  · have hexecute : ∀ n, execute T n st = (f (T k)).map fun v =>
        (outcome n st [v] 1, Function.update T k (some v)) := fun n => by
      rw [execute, hop, Option.bind_some, RowOp.apply, if_pos hneeds, Option.map_map]
      rfl
    refine does_statement hp fails (fun n hn => ?_)
      fun n o T' h => ⟨?_, fun e he => fails e he.fails⟩
    · rw [hexecute, Option.map_eq_none_iff] at hn
      exact refused (.inr hn)
    · rw [hexecute, Option.map_eq_some_iff] at h
      obtain ⟨v, hv, he⟩ := h
      cases he
      exact made n v hv
  · have hexecute : ∀ n, execute T n st = none := fun n => by
      rw [execute, hop, Option.bind_some, RowOp.apply, if_neg hneeds, Option.map_none]
    have hmissing : ∃ k ∈ needs, T k = none := by simpa using hneeds
    refine does_statement hp fails (fun _ _ => refused (.inl hmissing)) fun n o T' h => ?_
    rw [hexecute] at h
    cases h

theorem does_insert {st : Statement} {p : Stored α} {read : Outcome → Except ServiceError α}
    {good : α → Tables → Prop} {k : Key} {needs : List Key} {v : Row}
    (hp : p.run = (fun r => r.bind read) <$> (send st).run)
    (hop : ∀ n, rowOp n st = some (.insert k needs v))
    (fails : ∀ e, s.Fails e → B (.database e)) (refused : B (.database s.refusal))
    (made : ∀ n, T k = none →
      Ends good (fun e _ => B e) (read (outcome n st [v] 1)) (Function.update T k (some v))) :
    s.Does m p.run T (Ends good fun e _ => B e) := by
  refine does_make hp hop fails (fun _ => refused) fun n w hw => ?_
  cases hk : T k with
  | some w' => simp [hk] at hw
  | none =>
    rw [hk, Option.some.injEq] at hw
    rw [← hw]
    exact made n hk

theorem does_nextId {p : Post} {good : String → Tables → Prop}
    (fails : ∀ e, s.Fails e → B (.database e)) (next : ∀ id, good id T) :
    s.Does m (nextId p).run T (Ends good fun e _ => B e) := by
  refine does_bind_except (does_statement run_fetchOne fails (fun n hn => ?_)
    fun n o T' h => ⟨?_, fun e he => fails e he.fails⟩)
  · cases hn
  · cases h
    exact does_pure (next _)

/-! ## Transactions -/

/-- **A transaction** does what its body does. Where that fails, or the commit, what is stored stays
as it was; the answer to the commit may be lost. -/
theorem does_transaction {good : α → Tables → Prop} {body : Stored α}
    (hbody : s.Does (.within T) body.run T (Ends good fun e _ => B e))
    (fails : ∀ e, s.Fails e → bad (.database e) T) (undone : ∀ e, B e → bad e T)
    (lost : ∀ a T' e, good a T' → s.Loses e → bad (.database e) T') :
    s.Does .alone (transaction body).run T (Ends good bad) := by
  rintro c ⟨hstored, hworking⟩
  rw [transaction, ExceptT.run_mk, run_bind, run_ask]
  simp only [perform]
  cases hopen : s.turn c.clock with
  | fails e => exact ⟨T, ⟨hstored, hworking⟩, fails e ⟨_, .inl hopen⟩⟩
  | lost e => exact ⟨T, ⟨hstored, hworking⟩, fails e ⟨_, .inr hopen⟩⟩
  | done =>
    obtain ⟨T', hat, hend⟩ := hbody { c.tick with working := some c.stored }
      ⟨hstored, congrArg some hstored⟩
    simp only []
    rw [run_bind]
    generalize s.run body.run { c.tick with working := some c.stored } = ended at hat hend ⊢
    obtain ⟨r, c'⟩ := ended
    cases r with
    | error e =>
      -- the rollback
      rw [run_bind, run_ask]
      exact ⟨T, ⟨hat.1, rfl⟩, undone e hend⟩
    | ok a =>
      rw [run_bind, run_ask]
      simp only [perform]
      have htables : c'.tables = T' := tables_eq hat
      cases hcommit : s.turn c'.clock with
      | done => exact ⟨T', ⟨htables, rfl⟩, hend⟩
      | fails e =>
        rw [run_bind, run_ask]
        exact ⟨T, ⟨hat.1, rfl⟩, fails e ⟨_, .inl hcommit⟩⟩
      | lost e =>
        rw [run_bind, run_ask]
        exact ⟨T', ⟨htables, rfl⟩, lost a T' e hend ⟨_, hcommit⟩⟩

/-! ## What programs keep -/

variable (s m) in
/-- A program keeps something of the tables, however it ends. -/
def Keeps (I : Tables → Prop) (p : Stored α) : Prop :=
  ∀ T, I T → s.Does m p.run T (Ends (fun _ => I) fun _ => I)

variable {I : Tables → Prop}

theorem keeps_pure {a : α} : s.Keeps m I (pure a) := fun _ h => does_pure h

theorem keeps_throw {e : ServiceError} : s.Keeps m I (throw e : Stored α) := fun _ h => does_pure h

theorem keeps_bind {p : Stored α} {f : α → Stored β} (hp : s.Keeps m I p)
    (hf : ∀ a, s.Keeps m I (f a)) : s.Keeps m I (p >>= f) := by
  intro T hT
  exact does_seq (hp T hT) fun a T' hT' => hf a T' hT'

theorem keeps_reading {st : Statement} {p : Stored α} {read : Outcome → Except ServiceError α}
    (hp : p.run = (fun r => r.bind read) <$> (send st).run)
    (h : ∀ n op, rowOp n st = some op → op.Keeps I) : s.Keeps m I p := by
  intro T hT
  refine does_statement hp (fun _ _ => hT) (fun _ _ => hT) fun n o T' he => ?_
  obtain ⟨op, hop, he⟩ := Option.bind_eq_some_iff.mp he
  obtain ⟨⟨r, _⟩, happly, he⟩ := Option.map_eq_some_iff.mp he
  cases he
  have hT' : I T' := h n op hop T r T' hT happly
  refine ⟨?_, fun _ _ => hT'⟩
  cases read _ <;> exact hT'

theorem keeps_statement {st : Statement} {p : Stored α} {read : Outcome → Except ServiceError α}
    (hp : p.run = (fun r => r.bind read) <$> (send st).run)
    (h : ∀ n, ∃ op, rowOp n st = some op ∧ op.Keeps I) : s.Keeps m I p := by
  refine keeps_reading hp fun n op hop => ?_
  obtain ⟨op', hop', hkeeps⟩ := h n
  rw [hop] at hop'
  cases hop'
  exact hkeeps

theorem keeps_nextId {p : Post} : s.Keeps m I (nextId p) :=
  keeps_bind (keeps_statement run_fetchOne fun _ => ⟨_, rfl, RowOp.keeps_nothing⟩)
    fun _ => keeps_pure

theorem keeps_transaction {body : Stored α}
    (h : ∀ T, I T → s.Does (.within T) body.run T (Ends (fun _ => I) fun _ _ => True)) :
    s.Keeps .alone I (transaction body) := by
  intro T hT
  refine does_transaction (B := fun _ => True) (h T hT) ?_ ?_ ?_
  · exact fun _ _ => hT
  · exact fun _ _ => hT
  · exact fun _ _ _ hT' _ => hT'

theorem keeps_transaction_of_keeps {body : Stored α} (h : ∀ T₀, s.Keeps (.within T₀) I body) :
    s.Keeps .alone I (transaction body) := by
  refine keeps_transaction fun T hT => (h T T hT).mono fun r T' hr => ?_
  cases r with
  | ok a => exact hr
  | error e => trivial

/-! ## Changes of content -/

theorem keeps_recordVote_of_rowOps (h : ∀ n st op, rowOp n st = some op → op.Keeps I)
    {user : String} {o : ObjectInfo} {up : Bool} : s.Keeps .alone I (recordVote user o up) := by
  unfold recordVote
  cases Post.ofKind? o.kind with
  | none => exact keeps_throw
  | some p =>
    refine keeps_transaction_of_keeps fun T₀ => ?_
    refine keeps_bind (keeps_reading run_fetchOptional (h · _)) fun earlier => ?_
    refine keeps_bind ?_ fun vote => ?_
    · unfold storeVote
      split <;> exact keeps_bind (keeps_reading run_execute (h · _)) fun _ => keeps_pure
    · exact keeps_bind (keeps_reading run_fetchOn (h · _)) fun _ => keeps_pure

/-- **What every statement keeps**, every change of content keeps. -/
theorem keeps_change_of_rowOps (h : ∀ n st op, rowOp n st = some op → op.Keeps I) (w : Write) :
    s.Keeps .alone I (change w) := by
  have execute : ∀ {m st}, s.Keeps m I (Storage.execute st) :=
    fun {_ _} => keeps_reading run_execute (h · _)
  have executeOn : ∀ {m id st}, s.Keeps m I (Storage.executeOn id st) :=
    fun {_ _ _} => keeps_reading run_executeOn (h · _)
  cases w with
  | createQuestion q =>
    exact keeps_bind keeps_nextId fun id => keeps_bind execute fun _ => keeps_pure
  | updateQuestion id t c => exact executeOn
  | createAnswer a =>
    exact keeps_transaction_of_keeps fun T₀ => keeps_bind executeOn fun _ =>
      keeps_bind keeps_nextId fun id => keeps_bind execute fun _ => keeps_pure
  | updateAnswer id c => exact executeOn
  | createComment c =>
    exact keeps_bind keeps_nextId fun id => keeps_bind execute fun _ => keeps_pure
  | addReport r => exact keeps_reading run_fetchOne (h · _)
  | deleteQuestion id => exact executeOn
  | updateQuestionStatus id status => exact executeOn
  | setQuestionPinned id pinned => exact executeOn
  | deleteAnswer id =>
    exact keeps_transaction_of_keeps fun T₀ => keeps_bind (keeps_reading run_fetchOn (h · _))
      fun q => keeps_bind execute fun _ => keeps_pure
  | acceptAnswer q a =>
    exact keeps_transaction_of_keeps fun T₀ => keeps_bind execute fun _ =>
      keeps_bind executeOn fun _ => keeps_bind execute fun _ => keeps_pure
  | deleteComment id => exact executeOn
  | recordVote user o up => exact keeps_recordVote_of_rowOps h

variable (s) in
/-- The connection after some changes of content, one after another. -/
noncomputable def changes (ws : List Write) (c : Connection) : Connection :=
  ws.foldl (fun c w => (s.run (change w).run c).2) c

theorem keeps_changes {ws : List Write} (h : ∀ w ∈ ws, s.Keeps .alone I (change w)) {c : Connection}
    (hc : c.working = none) (hI : I c.stored) :
    (s.changes ws c).working = none ∧ I (s.changes ws c).stored := by
  induction ws generalizing c with
  | nil => exact ⟨hc, hI⟩
  | cons w ws ih =>
    obtain ⟨T', ⟨hstored, hworking⟩, hend⟩ := h w List.mem_cons_self c.stored hI c ⟨rfl, hc⟩
    refine ih (fun w' hw' => h w' (List.mem_cons_of_mem _ hw')) hworking (hstored ▸ ?_)
    cases hr : (s.run (change w).run c).1 <;> rw [hr] at hend <;> exact hend

/-- Changes of content close every transaction that they open. -/
theorem working_changes {ws : List Write} {c : Connection} (hc : c.working = none) :
    (s.changes ws c).working = none := by
  have hnothing : ∀ w ∈ ws, s.Keeps .alone (fun _ => True) (change w) :=
    fun w _ => keeps_change_of_rowOps (fun _ _ _ _ _ _ _ _ _ => trivial) w
  exact (keeps_changes hnothing hc trivial).1

end Course

end Forum.Tables
