import Forum.Memory.Entry
import Forum.Reaction

/-!
# The service without a database

All repositories in memory, with answers and failures that can be planned. Every call is logged.

* `Memory`: what is kept; `Memory.failure?`: the planned failure of a call;
* `Memory.answer`: the answer to a call;
* `Trace`, `Memory.run`: the run of a program, with all that it asked, counted and offered.
-/

namespace Forum

/-- What is kept in memory. Votes and searches are not worked out: their outcomes are planned. -/
structure Memory where
  users : List User := []
  settings : List (String × Int) := []
  objects : List ObjectInfo := []
  badges : List Badge := []
  awards : List Award := []
  voteCounts : List (String × Int) := []
  acceptedCounts : List (String × Int) := []
  voteResults : List VoteResult := []
  searchResults : List (List SearchItem × Int) := []
  failures : List (String × (String → ServiceError)) := []
  /-- The number of awards ever stored. -/
  awardsMade : Nat := 0
  /-- The kinds of all objects ever made. -/
  made : List ObjectKind := []

namespace Memory

/-- The sequence number of the first object of a kind. -/
def firstSeq : Nat := 901

/-- The time of the first second of the awards. -/
def epoch : Instant := ⟨1704067200, 0⟩

/-- The planned failure of a call: one for its first argument goes before one for all calls of the
name. -/
def failure? (m : Memory) (c : Call) : Option ServiceError :=
  (m.failures.lookup (c.name ++ ":" ++ c.subject) <|> m.failures.lookup c.name).map (· c.subject)

/-- A new object: its id is the next one of its kind. -/
def create (m : Memory) (kind : ObjectKind) (creator : String)
    (info : String → ObjectInfo → ObjectInfo) : String × Memory :=
  let id := kind.objectId (firstSeq + m.made.count kind : Nat)
  (id, { m with
    objects := m.objects ++ [info id { objectId := id, kind, creator }]
    made := kind :: m.made })

/-- One award more. -/
def addAward (m : Memory) (g : Grant) : Int × Memory :=
  let id := m.awardsMade + 1
  (id, { m with
    awards := m.awards ++ [⟨id, g, ⟨epoch.seconds + id, 0⟩⟩]
    awardsMade := id })

/-- The removal of an object. -/
def remove (m : Memory) (id : String) : Except ServiceError Unit × Memory :=
  if m.objects.any (·.objectId = id) then
    (.ok (), { m with objects := m.objects.filter (·.objectId ≠ id) })
  else (.error (.objectNotFound id), m)

/-- The outcome of a vote without a planned one. -/
def plainVote (up : Bool) : VoteResult := if up then ⟨1, 1⟩ else ⟨-1, -1⟩

/-- A look-up that must find something. -/
def found {α : Type} (id : String) (o : Option α) : Except ServiceError α :=
  match o with
  | some a => .ok a
  | none => .error (.objectNotFound id)

/-- The answer to a change. -/
def change (m : Memory) : (w : Write) → Except ServiceError w.Reply × Memory
  | .createQuestion q =>
    let (id, m) := m.create .question q.userId fun id o => { o with questionId := some id }
    (.ok id, m)
  | .createAnswer a =>
    let (id, m) := m.create .answer a.userId fun id o =>
      { o with questionId := some a.questionId, answerId := some id }
    (.ok id, m)
  | .createComment c =>
    let (id, m) := m.create .comment c.userId fun id o =>
      { o with questionId := some c.questionId, commentId := some id }
    (.ok id, m)
  | .addReport _ => (.ok 1, m)
  | .deleteQuestion id | .deleteAnswer id | .deleteComment id => m.remove id
  | .updateQuestion _ _ _ | .updateAnswer _ _ | .updateQuestionStatus _ _
  | .setQuestionPinned _ _ | .acceptAnswer _ _ => (.ok (), m)
  | .recordVote _ _ up =>
    match m.voteResults with
    | r :: rs => (.ok r, { m with voteResults := rs })
    | [] => (.ok (plainVote up), m)

/-- The answer to a call that does not fail by plan. -/
def answer (m : Memory) : (c : Call) → Except ServiceError c.Reply × Memory
  | .getInt k => (.ok (m.settings.lookup k), m)
  | .userById id => (.ok (m.users.find? (·.id = id)), m)
  | .userByName n => (.ok (m.users.find? (·.username = n)), m)
  | .objectInfo id => (found id (m.objects.find? (·.objectId = id)), m)
  | .write w => m.change w
  | .getBadge id => (.ok (m.badges.find? (·.id = id)), m)
  | .activeBadges => (.ok (m.badges.filter (·.isActive)), m)
  | .badgesOfHandlers hs =>
    (.ok (m.badges.filter fun b => hs.contains b.handler || b.handler.startsWith "?"), m)
  | .hasBadge u b => (.ok (m.awards.any fun a => a.grant.userId = u && a.grant.badgeId = b), m)
  | .hasAward u b k => (.ok (m.awards.any fun a => a.grant = ⟨u, b, k⟩), m)
  | .addAward g =>
    let (id, m) := m.addAward g
    (.ok id, m)
  | .awardsOf u => (.ok (m.awards.filter (·.grant.userId = u)), m)
  | .voteCount o => (found o (m.voteCounts.lookup o), m)
  | .acceptedCount u => (.ok ((m.acceptedCounts.lookup u).getD 0), m)
  | .addNotification _ => (.ok 1, m)
  | .search _ _ _ _ =>
    match m.searchResults with
    | r :: rs => (.ok r, { m with searchResults := rs })
    | [] => (.ok ([], 0), m)

end Memory

/-- What a program did. -/
structure Trace where
  calls : List Json := []
  metrics : List Metric := []
  events : List Event := []

namespace Memory

/-- The answer to an operation. Every event is accepted. -/
def perform : (e : Effect) → StateM (Memory × Trace) e.Answer
  | .call c => fun (m, t) =>
    let t := { t with calls := t.calls ++ [c.toJson] }
    match m.failure? c with
    | some err => (.error err, (m, t))
    | none =>
      let (r, m) := m.answer c
      (r, (m, t))
  | .count x => fun (m, t) => ((), (m, { t with metrics := t.metrics ++ [x] }))
  | .offer e => fun (m, t) =>
    (true, (m, { t with
      metrics := t.metrics ++ [.eventEnqueued e.type], events := t.events ++ [e] }))

/-- The run of a program. -/
def run {α : Type} (m : Memory) (p : Service α) : α × Memory × Trace := (p.run perform).run (m, {})

/-- The run of a program and, after it, of the reactions to the events that it offered. -/
def runAndReact {α : Type} (m : Memory) (rs : List Reactor) (p : Service α) : α × Memory × Trace :=
  let (a, m, t) := m.run p
  let ((), m, t) := ((t.events.forM (Reactor.dispatch rs)).run perform).run (m, t)
  (a, m, t)

end Memory

end Forum
