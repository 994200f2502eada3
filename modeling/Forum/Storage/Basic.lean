import Forum.Json.Decoder
import Forum.Sql.Statement

/-!
# Storage

What the repositories ask of the database and of the cache.

* `CacheCommand`: the commands of the cache;
* `StorageOp`, `Storage`: programs of statements, transactions and cache commands;
* `Storage.transaction`: a transaction that is rolled back when anything in it fails;
* `Storage.execute`, `fetchOptional`, `fetchOne`, `fetchAll`: a statement with the reading of its
  rows.
-/

namespace Forum

/-- A command of the cache. -/
inductive CacheCommand where
  | get (key : String)
  | set (key : String) (seconds : Nat) (value : String)
  | delete (key : String)
  | ping

namespace CacheCommand

/-- The words that are sent. -/
def words : CacheCommand → List String
  | get k => ["GET", k]
  | set k n v => ["SETEX", k, n.repr, v]
  | delete k => ["DEL", k]
  | ping => ["PING"]

/-- The name of a command. -/
def name (c : CacheCommand) : String := c.words.headD ""

/-- What a command answers. -/
abbrev Reply : CacheCommand → Type
  | get _ => Option String
  | _ => Unit

end CacheCommand

/-- An operation of the storage. -/
inductive StorageOp where
  | openTransaction
  | commit
  | rollback
  | run (s : Sql.Statement)
  | cache (c : CacheCommand)

/-- What an operation answers. -/
abbrev StorageOp.Answer : StorageOp → Type
  | openTransaction | commit => Except StorageError Unit
  | rollback => Unit
  | run _ => Except StorageError Sql.Outcome
  | cache c => Except SystemError c.Reply

/-- A program over the storage. -/
abbrev Storage := Program StorageOp StorageOp.Answer

/-- A program over the storage that may fail. -/
abbrev Stored := ExceptT ServiceError Storage

namespace Storage

open Sql

variable {α : Type}

/-- A single operation. -/
def ask (op : StorageOp) : Storage op.Answer := Program.perform op

/-- A failure of the database is one of the service. -/
def ofStorage (r : Except StorageError α) : Except ServiceError α := r.mapError .database

/-- A statement and its reply. -/
def send (s : Statement) : Stored Outcome :=
  ExceptT.mk do return ofStorage (← ask (.run s))

/-- A reading of a reply. -/
def read (r : Except StorageError α) : Stored α := ExceptT.mk (pure (ofStorage r))

/-- A statement, and the number of rows it affected. -/
def execute (s : Statement) : Stored Nat := do return (← send s).affected

/-- A statement that must affect a row of an object. -/
def executeOn (id : String) (s : Statement) : Stored Unit := do
  if (← execute s) = 0 then throw (.objectNotFound id)

/-- The first row of a statement, if there is one. -/
def fetchOptional (s : Statement) (f : Row → Except StorageError α) : Stored (Option α) := do
  match (← send s).rows with
  | [] => return none
  | r :: _ => return some (← read (f r))

/-- The first row of a statement. -/
def fetchOne (s : Statement) (f : Row → Except StorageError α) : Stored α := do
  match ← fetchOptional s f with
  | some a => return a
  | none => throw (.database .rowNotFound)

/-- The first row of a statement, about an object that must be there. -/
def fetchOn (id : String) (s : Statement) (f : Row → Except StorageError α) : Stored α := do
  match ← fetchOptional s f with
  | some a => return a
  | none => throw (.objectNotFound id)

/-- All rows of a statement. -/
def fetchAll (s : Statement) (f : Row → Except StorageError α) : Stored (List α) := do
  read ((← send s).rows.mapM f)

/-- The value of the only column. -/
def scalar (c : Column α) (r : Row) : Except StorageError α := r.at_ 0 c

/-- A transaction: all of it is stored when it ends well, and nothing when anything in it fails. -/
def transaction (body : Stored α) : Stored α := ExceptT.mk do
  match ← ask .openTransaction with
  | .error e => return .error (.database e)
  | .ok () =>
    match ← body.run with
    | .error e =>
      ask .rollback
      return .error e
    | .ok a =>
      match ← ask .commit with
      | .ok () => return .ok a
      | .error e =>
        ask .rollback
        return .error (.database e)

/-- A command of the cache; its failure is a value. -/
def cache (c : CacheCommand) : Storage (Except SystemError c.Reply) :=
  ask (.cache c)

end Storage

end Forum
