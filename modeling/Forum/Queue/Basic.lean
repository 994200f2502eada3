import Forum.Metric

/-!
# The event queue

Events wait in a bounded queue for one worker, which hands each to every handler that wants it. A
handler that fails stops nothing.

* `OverflowPolicy`: what happens to an event when the queue is full;
* `EventHandler`, `HandlerCall`: one who handles events, and one call of it;
* `EventQueue`, `EventQueue.send`: the state of a queue, and an event offered to it;
* `EventQueue.enter`, `EventQueue.giveUp`: the end of a send that waits;
* `EventQueue.receive`, `EventQueue.handleNext`: the steps of the worker;
* `EventQueue.clone`, `EventQueue.drop`: the senders come and go;
* `EventQueue.stop`, `EventQueue.abandon`: the worker goes at once, all senders go.
-/

namespace Forum

/-- What happens to an event when the queue is full: its sender waits, or it is dropped. -/
inductive OverflowPolicy where
  | block
  | dropNewest
deriving DecidableEq, Repr

namespace OverflowPolicy

def all : List OverflowPolicy := [block, dropNewest]

def name : OverflowPolicy → String
  | block => "block"
  | dropNewest => "drop_newest"

def ofName? (s : String) : Option OverflowPolicy := all.find? (·.name = s)

end OverflowPolicy

/-- One who handles events: which types, on which calls it fails, and whether it needs a permit for
each event. Calls are told apart by their number among the calls of all handlers. -/
structure EventHandler where
  name : String
  supports : EventType → Bool
  fails : (number : Nat) → Event → Bool
  gated : Bool

/-- A call of a handler, and whether it failed. -/
structure HandlerCall where
  handler : EventHandler
  event : Event
  failed : Bool

/-- The worker: waiting for an event, busy with one for the handlers that are left, at its end, or
gone before. -/
inductive Worker where
  | idle
  | busy (e : Event) (todo : List EventHandler)
  | exited
  | gone

/-- What became of a sent event at once. -/
inductive SendOutcome where
  | accepted
  | dropped
  | refused
  | waiting (number : Nat)
deriving DecidableEq, Repr

/-- A queue with its senders, its worker and its handlers. The lists `handled`, `metrics`,
`completed` and `returned` grow at the end. -/
structure EventQueue where
  policy : OverflowPolicy
  capacity : Nat
  handlers : List EventHandler
  buffer : List Event := []
  /-- The sends that wait for a place, the oldest first, each with its number. -/
  waiting : List (Nat × Event) := []
  worker : Worker := .idle
  /-- The permits that gated handlers can take. -/
  permits : Nat := 0
  /-- Those who can send. -/
  clones : Nat := 1
  /-- The number of sends so far. -/
  sends : Nat := 0
  /-- The number of calls of handlers so far. -/
  calls : Nat := 0
  handled : List HandlerCall := []
  metrics : List Metric := []
  /-- The sends that have waited, and whether they were accepted. -/
  completed : List (Nat × Bool) := []
  /-- The events of all sends that have returned, and whether they were accepted. -/
  returned : List (Event × Bool) := []

namespace EventQueue

/-- A queue with one sender. -/
def start (policy : OverflowPolicy) (capacity : Nat) (handlers : List EventHandler) : EventQueue :=
  { policy, capacity, handlers }

/-- The places of the queue: at least one. -/
def places (q : EventQueue) : Nat := max q.capacity 1

/-- Is the worker at its end, or gone? -/
def isClosed (q : EventQueue) : Bool :=
  match q.worker with
  | .exited | .gone => true
  | _ => false

/-- A send that has been accepted. -/
def accept (q : EventQueue) (e : Event) : EventQueue :=
  { q with
    buffer := q.buffer ++ [e]
    metrics := q.metrics ++ [.eventEnqueued e.type]
    returned := q.returned ++ [(e, true)] }

/-- A send that has not been accepted. -/
def refuse (q : EventQueue) (e : Event) : EventQueue :=
  { q with returned := q.returned ++ [(e, false)] }

/-- An event offered to the queue. Without a worker it is refused. -/
def send (q : EventQueue) (e : Event) : SendOutcome × EventQueue :=
  let q := { q with sends := q.sends + 1 }
  if q.isClosed then (.refused, q.refuse e)
  else if q.buffer.length < q.places then (.accepted, q.accept e)
  else
    match q.policy with
    | .block => (.waiting q.sends, { q with waiting := q.waiting ++ [(q.sends, e)] })
    | .dropNewest =>
      (.dropped, { q.refuse e with metrics := q.metrics ++ [.eventDropped e.type] })

/-- A waiting send gets a free place. -/
def enter (q : EventQueue) (i : Nat) : Option EventQueue :=
  match q.waiting[i]? with
  | none => none
  | some (n, e) =>
    if !q.isClosed ∧ q.buffer.length < q.places then
      some ({ q with
        waiting := q.waiting.eraseIdx i, completed := q.completed ++ [(n, true)] }.accept e)
    else none

/-- A waiting send is given up. -/
def giveUp (q : EventQueue) (i : Nat) : EventQueue := { q with waiting := q.waiting.eraseIdx i }

/-- The oldest waiting send gets the place that has become free. -/
def fillPlace (q : EventQueue) : EventQueue := (q.enter 0).getD q

/-- The worker takes the first event. When there is none and nobody is left to send one, it ends. -/
def receive (q : EventQueue) : Option EventQueue :=
  match q.worker, q.buffer with
  | .idle, e :: buffer =>
    some { q with buffer, worker := .busy e (q.handlers.filter fun h => h.supports e.type) }
  | .idle, [] => if q.clones = 0 then some { q with worker := .exited } else none
  | _, _ => none

/-- The worker takes the first event, and a waiting send gets its place. -/
def take (q : EventQueue) : Option EventQueue := q.receive.map fillPlace

/-- A handler's work on an event. -/
def handle (q : EventQueue) (h : EventHandler) (e : Event) : EventQueue :=
  let failed := h.fails q.calls e
  { q with
    calls := q.calls + 1
    handled := q.handled ++ [⟨h, e, failed⟩]
    metrics := if failed then q.metrics ++ [.handlerFailure h.name] else q.metrics }

/-- The next handler of the event that the worker is busy with; a gated one needs a permit. -/
def handleNext (q : EventQueue) : Option EventQueue :=
  match q.worker with
  | .busy _ [] => some { q with worker := .idle }
  | .busy e (h :: todo) =>
    if h.gated then
      match q.permits with
      | 0 => none
      | permits + 1 => some ({ q with permits, worker := .busy e todo }.handle h e)
    else some ({ q with worker := .busy e todo }.handle h e)
  | _ => none

/-- A step of the worker; none if it has to wait. -/
def step (q : EventQueue) : Option EventQueue := q.handleNext <|> q.take

/-- At most `fuel` steps of the worker. -/
def steps : Nat → EventQueue → EventQueue
  | 0, q => q
  | fuel + 1, q =>
    match q.step with
    | some q => steps fuel q
    | none => q

/-- More steps than the worker can take without new events: each event takes one step, and two more
than there are handlers are enough for what it is busy with. -/
def workLeft (q : EventQueue) : Nat :=
  (q.buffer.length + q.waiting.length + 1) * (q.handlers.length + 2)

/-- The worker goes on until it has to wait. -/
def settle (q : EventQueue) : EventQueue := steps q.workLeft q

/-- More permits for gated handlers. -/
def release (q : EventQueue) (n : Nat) : EventQueue := { q with permits := q.permits + n }

/-- One more sender, made from another one. -/
def clone (q : EventQueue) : Option EventQueue :=
  if q.clones = 0 then none else some { q with clones := q.clones + 1 }

/-- A sender goes; the last one when none of its sends waits. -/
def drop (q : EventQueue) : Option EventQueue :=
  match q.clones with
  | 0 => none
  | 1 => if q.waiting.isEmpty then some { q with clones := 0 } else none
  | n + 2 => some { q with clones := n + 1 }

/-- The worker goes at once: events in the queue are lost, and waiting sends are refused. -/
def stop (q : EventQueue) : EventQueue :=
  match q.worker with
  | .exited => q
  | _ => { q with
      worker := .gone, buffer := [], waiting := []
      completed := q.completed ++ q.waiting.map fun (n, _) => (n, false)
      returned := q.returned ++ q.waiting.map fun (_, e) => (e, false) }

/-- All senders go: sends that still wait are given up, and handlers need no more permits. The
result has their numbers. -/
def abandon (q : EventQueue) : List Nat × EventQueue :=
  (q.waiting.map (·.1), { q with
    waiting := [], clones := 0, permits := q.permits + q.workLeft })

end EventQueue

end Forum
