import Forum.Reaction
import Forum.Storage.Repository

/-!
# The service over planned servers

A database and a cache that answer as planned: a reply for each statement in turn, and cache
commands that can be made to fail.

* `Session`: what the servers will answer, and what they have been sent;
* `Session.perform`: the answer to an operation of the storage;
* `Session.run`: the run of a program of the service over these servers.
-/

namespace Forum

/-- What the servers will answer, and what they have been sent. -/
structure Session where
  replies : List (Except StorageError Sql.Outcome) := []
  entries : List (String × String) := []
  failing : List String := []
  statements : List Json := []
  commands : List Json := []
  metrics : List Metric := []
  events : List Event := []

namespace Session

/-- A statement as it is logged. -/
def statementJson (s : Sql.Statement) : Json :=
  .list [.text s.text, .list (s.params.map Sql.Value.toJson)]

/-- A statement without parameters and without a reply. -/
def control (word : String) : StateM Session Unit :=
  modify fun s => { s with statements := s.statements ++ [.list [.text word]] }

/-- The cache after a command, and its answer. -/
def cacheAnswer (entries : List (String × String)) :
    (c : CacheCommand) → c.Reply × List (String × String)
  | .get k => (entries.lookup k, entries)
  | .set k _ v => ((), (k, v) :: entries.filter (·.1 ≠ k))
  | .delete k => ((), entries.filter (·.1 ≠ k))
  | .ping => ((), entries)

/-- The answer to a command of the cache. -/
def cache (c : CacheCommand) : StateM Session (Except SystemError c.Reply) := fun s =>
  let s := { s with commands := s.commands ++ [.list (c.words.map .text)] }
  if s.failing.contains c.name then (.error (.redis c.name), s)
  else
    let (r, entries) := cacheAnswer s.entries c
    (.ok r, { s with entries })

/-- The answer to a statement: the next reply, or no rows at all. -/
def statement (st : Sql.Statement) : StateM Session (Except StorageError Sql.Outcome) := fun s =>
  let s := { s with statements := s.statements ++ [statementJson st] }
  match s.replies with
  | r :: replies => (r, { s with replies })
  | [] => (.ok {}, s)

/-- The answer to an operation of the storage. Transactions open and end as asked. -/
def perform : (op : StorageOp) → StateM Session op.Answer
  | .openTransaction => do control "BEGIN"; return .ok ()
  | .commit => do control "COMMIT"; return .ok ()
  | .rollback => control "ROLLBACK"
  | .run st => statement st
  | .cache c => cache c

/-- The answer to an operation of the service; `ttl` is how long settings are cached. -/
def serve (ttl : Option Nat) : (e : Effect) → StateM Session e.Answer
  | .call c => (Storage.answer ttl c).run.run perform
  | .count m => modify fun s => { s with metrics := s.metrics ++ [m] }
  | .offer e => do
    modify fun s => { s with
      metrics := s.metrics ++ [.eventEnqueued e.type], events := s.events ++ [e] }
    return true

/-- The run of a program. -/
def run {α : Type} (s : Session) (ttl : Option Nat) (p : Service α) : α × Session :=
  (p.run (serve ttl)).run s

/-- The run of a program over the storage. -/
def runStored {α : Type} (s : Session) (p : Storage α) : α × Session := (p.run perform).run s

/-- The run of a program and, after it, of the reactions to the events that it offered. -/
def runAndReact {α : Type} (s : Session) (ttl : Option Nat) (rs : List Reactor) (p : Service α) :
    α × Session :=
  let (a, s) := s.run ttl p
  let ((), s) := s.run ttl (s.events.forM (Reactor.dispatch rs))
  (a, s)

end Session

end Forum
