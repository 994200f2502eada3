import Forum.Proofs.Producers

/-!
# Accepted events are handled

When all senders are gone and the worker has ended, every accepted event has been handled by those
who want it, in order, whatever failed in between.

* `EventQueue.mute`: a queue with the failures of its handlers left out;
* `EventQueue.Delivered`: what has become of the accepted events;
* **`act_mute`**, **`run_mute`**: what happens to a queue does not depend on failures;
* **`delivered`**: accepted events are handled once, in order.
-/

namespace Forum

/-! ## Failures make no difference -/

/-- The same handler, if it never failed. -/
def EventHandler.mute (h : EventHandler) : EventHandler := { h with fails := fun _ _ => false }

/-- The same call, if its handler never failed. -/
def HandlerCall.mute (c : HandlerCall) : HandlerCall := ⟨c.handler.mute, c.event, false⟩

/-- The same state of a worker, if no handler ever failed. -/
def Worker.mute : Worker → Worker
  | .busy e todo => .busy e (todo.map EventHandler.mute)
  | w => w

/-- Is a failure of a handler counted? -/
def Metric.isFailure : Metric → Bool
  | .handlerFailure _ => true
  | _ => false

namespace EventQueue

variable {q q' : EventQueue}

/-- The same queue, if no handler ever failed. -/
def mute (q : EventQueue) : EventQueue :=
  { q with
    handlers := q.handlers.map EventHandler.mute
    worker := q.worker.mute
    handled := q.handled.map HandlerCall.mute
    metrics := q.metrics.filter fun m => !m.isFailure }

theorem worker_mute : q.mute.worker = q.worker.mute := rfl

theorem buffer_mute : q.mute.buffer = q.buffer := rfl

theorem waiting_mute : q.mute.waiting = q.waiting := rfl

theorem clones_mute : q.mute.clones = q.clones := rfl

theorem permits_mute : q.mute.permits = q.permits := rfl

theorem accepted_mute : q.mute.accepted = q.accepted := rfl

theorem handled_mute : q.mute.handled = q.handled.map HandlerCall.mute := rfl

theorem places_mute : q.mute.places = q.places := rfl

theorem isClosed_mute : q.mute.isClosed = q.isClosed := by
  unfold isClosed mute Worker.mute
  cases q.worker <;> rfl

theorem accept_mute (q : EventQueue) (e : Event) : (q.accept e).mute = q.mute.accept e := by
  simp [accept, mute, Metric.isFailure]

theorem send_mute (e : Event) : (q.send e).2.mute = (q.mute.send e).2 := by
  have hclosed : ({ q.mute with sends := q.mute.sends + 1 } : EventQueue).isClosed = q.isClosed :=
    isClosed_mute
  unfold send
  dsimp only
  rw [hclosed, show ({ q with sends := q.sends + 1 } : EventQueue).isClosed = q.isClosed from rfl]
  cases q.isClosed with
  | true => rfl
  | false =>
    change mute (Prod.snd (if q.buffer.length < q.places then _ else _)) =
      Prod.snd (if q.buffer.length < q.places then _ else _)
    by_cases hplace : q.buffer.length < q.places
    · simp only [if_pos hplace]
      exact accept_mute { q with sends := q.sends + 1 } e
    · simp only [if_neg hplace]
      cases hp : q.policy with
      | block => simp [mute, hp]
      | dropNewest => simp [mute, refuse, Metric.isFailure, hp]

theorem enter_mute (i : Nat) : q.mute.enter i = (q.enter i).map mute := by
  unfold enter
  rw [isClosed_mute, waiting_mute, buffer_mute, places_mute]
  cases q.waiting[i]? with
  | none => rfl
  | some w =>
    by_cases hplace : !q.isClosed ∧ q.buffer.length < q.places
    · simp only [if_pos hplace]
      exact congrArg some (accept_mute { q with
        waiting := q.waiting.eraseIdx i, completed := q.completed ++ [(w.1, true)] } w.2).symm
    · simp only [if_neg hplace]
      rfl

theorem receive_mute : q.mute.receive = q.receive.map mute := by
  unfold receive
  rw [worker_mute, buffer_mute, clones_mute]
  cases hw : q.worker with
  | idle =>
    cases q.buffer with
    | nil =>
      by_cases hclones : q.clones = 0
      · simp only [hclones, Worker.mute]
        rfl
      · simp only [hclones, Worker.mute]
        rfl
    | cons e buffer => simp [mute, Worker.mute, List.filter_map, Function.comp_def, EventHandler.mute]
  | _ => rfl

theorem handle_mute (q : EventQueue) (h : EventHandler) (e : Event) :
    (q.handle h e).mute = q.mute.handle h.mute e := by
  cases hfails : h.fails q.calls e <;>
    simp [handle, mute, hfails, HandlerCall.mute, EventHandler.mute, Metric.isFailure]

theorem handleNext_mute : q.mute.handleNext = q.handleNext.map mute := by
  unfold handleNext
  rw [worker_mute, permits_mute]
  cases hw : q.worker with
  | busy e todo =>
    cases todo with
    | nil => rfl
    | cons h todo =>
      change (if h.gated then _ else _) = Option.map mute (if h.gated then _ else _)
      cases h.gated with
      | true =>
        cases q.permits with
        | zero => rfl
        | succ permits =>
          exact congrArg some (handle_mute { q with permits, worker := .busy e todo } h e).symm
      | false => exact congrArg some (handle_mute { q with worker := .busy e todo } h e).symm
  | _ => rfl

theorem clone_mute : q.mute.clone = q.clone.map mute := by
  unfold clone
  rw [clones_mute]
  split <;> rfl

theorem drop_mute : q.mute.drop = q.drop.map mute := by
  unfold drop
  rw [clones_mute, waiting_mute]
  split
  · rfl
  · split <;> rfl
  · rfl

theorem stop_mute : q.stop.mute = q.mute.stop := by
  unfold stop
  rw [worker_mute]
  cases q.worker <;> rfl

/-- **An action** does not depend on failures. -/
theorem act_mute (a : QueueAction) : q.mute.act a = (q.act a).map mute := by
  cases a with
  | clone => exact clone_mute
  | drop => exact drop_mute
  | send e =>
    change (if q.clones = 0 then none else some (q.mute.send e).2) =
      Option.map mute (if q.clones = 0 then none else some (q.send e).2)
    split
    · rfl
    · exact congrArg some (send_mute e).symm
  | enter i => exact enter_mute i
  | giveUp i => rfl
  | work =>
    change (q.mute.handleNext <|> q.mute.receive) = (q.handleNext <|> q.receive).map mute
    rw [handleNext_mute, receive_mute]
    cases q.handleNext <;> rfl
  | release n => rfl
  | stop => exact congrArg some stop_mute.symm

/-- **A run** does not depend on failures. -/
theorem run_mute (l : List QueueAction) : q.mute.run l = (q.run l).map mute := by
  induction l generalizing q with
  | nil => rfl
  | cons a l ih =>
    rw [run_cons, run_cons, act_mute]
    cases q.act a with
    | none => rfl
    | some q₁ => exact ih

theorem exited_mute : q.mute.worker = .exited ↔ q.worker = .exited := by
  change q.worker.mute = .exited ↔ _
  cases q.worker <;> simp [Worker.mute]

end EventQueue

/-! ## What has become of accepted events -/

namespace EventHandler

variable {handlers : List EventHandler} {h : EventHandler}

theorem filter_name (hn : (handlers.map (·.name)).Nodup) (hh : h ∈ handlers) :
    handlers.filter (·.name = h.name) = [h] := by
  induction handlers with
  | nil => cases hh
  | cons a rest ih =>
    obtain ⟨ha, hrest⟩ := List.nodup_cons.mp hn
    rcases List.mem_cons.mp hh with rfl | hh
    · rw [List.filter_cons_of_pos (by simp), List.filter_eq_nil_iff.mpr]
      intro b hb hname
      exact ha (List.mem_map.mpr ⟨b, hb, of_decide_eq_true hname⟩)
    · rw [List.filter_cons_of_neg, ih hrest hh]
      intro hname
      exact ha (List.mem_map.mpr ⟨h, hh, (of_decide_eq_true hname).symm⟩)

/-- Of the calls that an event leads to, at most one is of a handler. -/
theorem callsFor_named (hn : (handlers.map (·.name)).Nodup) (hh : h ∈ handlers) (e : Event) :
    ((callsFor handlers e).filter (·.1.name = h.name)).map (·.2) =
      if h.supports e.type then [e] else [] := by
  have hswap : (handlers.filter fun h => h.supports e.type).filter (·.name = h.name) =
      (handlers.filter (·.name = h.name)).filter fun h => h.supports e.type := by
    simp only [List.filter_filter, Bool.and_comm]
  rw [callsFor, List.filter_map, List.map_map]
  change ((handlers.filter fun h => h.supports e.type).filter (·.name = h.name)).map _ = _
  rw [hswap, filter_name hn hh, List.filter_cons]
  split <;> rfl

theorem flatMap_callsFor_named (hn : (handlers.map (·.name)).Nodup) (hh : h ∈ handlers)
    (l : List Event) : ((l.flatMap (callsFor handlers)).filter (·.1.name = h.name)).map (·.2) =
      l.filter fun e => h.supports e.type := by
  induction l with
  | nil => rfl
  | cons e l ih =>
    rw [List.flatMap_cons, List.filter_append, List.map_append, ih, callsFor_named hn hh,
      List.filter_cons]
    split <;> rfl

end EventHandler

namespace EventQueue

variable {q : EventQueue} {handlers : List EventHandler}

/-- What has become of the accepted events of a queue with these handlers. -/
structure Delivered (handlers : List EventHandler) (q : EventQueue) : Prop where
  /-- All senders are gone. -/
  senders : q.clones = 0
  /-- The calls: of each accepted event, in order, by all handlers that want it, in order. -/
  called : q.called = q.accepted.flatMap (EventHandler.callsFor handlers)
  /-- A handler with a name of its own is called on all accepted events that it wants, in order. -/
  each : (handlers.map (·.name)).Nodup → ∀ h ∈ handlers,
    (q.handled.filter (·.handler.name = h.name)).map (·.event) =
      q.accepted.filter fun e => h.supports e.type
  /-- A call fails when its handler does. -/
  answered : ∀ (i : Nat) (c : HandlerCall), q.handled[i]? = some c →
    c.failed = c.handler.fails i c.event
  /-- Failures are counted for each name of a handler. -/
  counted : ∀ n, q.metrics.count (.handlerFailure n) =
    q.handled.countP fun c => c.failed && c.handler.name = n

theorem Sound.delivered_of_exited (hs : Sound handlers q) (hexit : q.worker = .exited) :
    Delivered handlers q := by
  obtain ⟨hbuffer, hclones⟩ := hs.ended hexit
  obtain ⟨taken, haccepted, hcalled⟩ := hs.line (by rw [hexit]; nofun)
  have hpending : q.pending = [] := by rw [pending, hexit]
  rw [hbuffer, List.append_nil] at haccepted
  rw [hpending, List.append_nil, ← haccepted] at hcalled
  refine ⟨hclones, hcalled, fun hn h hh => ?_, hs.answered, hs.counted⟩
  rw [← EventHandler.flatMap_callsFor_named hn hh, ← hcalled, called, List.filter_map, List.map_map]
  rfl

/-- **Accepted events are handled.** Any number of senders and the worker have taken turns in any
order. When the worker has ended, all senders are gone, and the calls of handlers are those of each
accepted event in order, by all handlers that want it in order; a failure is counted for its
handler. Handlers that fail on other calls would have been called on the same events. -/
theorem delivered {policy : OverflowPolicy} {capacity : Nat} {actions : List QueueAction}
    (hrun : (start policy capacity handlers).run actions = some q) (hexit : q.worker = .exited) :
    Delivered handlers q ∧
    ∀ handlers', handlers'.map EventHandler.mute = handlers.map EventHandler.mute →
      ∃ q', (start policy capacity handlers').run actions = some q' ∧ q'.worker = .exited ∧
        q'.accepted = q.accepted ∧
        q'.handled.map HandlerCall.mute = q.handled.map HandlerCall.mute := by
  refine ⟨((Sound.start policy capacity handlers).run hrun).delivered_of_exited hexit, ?_⟩
  -- Without failures the two queues are the same, so their runs are the same without failures.
  intro handlers' hmute
  have hstart : (start policy capacity handlers').mute = (start policy capacity handlers).mute := by
    rw [mute, mute, start, start, hmute]
  have hmuted := run_mute (q := start policy capacity handlers') actions
  rw [hstart, run_mute, hrun] at hmuted
  obtain ⟨q', hrun', hq'⟩ := Option.map_eq_some_iff.mp hmuted.symm
  refine ⟨q', hrun', ?_, ?_, ?_⟩
  · rw [← exited_mute, hq', exited_mute, hexit]
  · rw [← accepted_mute, hq', accepted_mute]
  · rw [← handled_mute, hq', handled_mute]

/-- A handler that fails on the first call of all, and one that wants votes only. -/
def twoHandlers : List EventHandler :=
  [⟨"all", fun _ => true, fun n _ => n = 0, false⟩,
    ⟨"votes", fun t => t = .voteUp, fun _ _ => false, false⟩]

/-- A send is accepted, one more waits for the only place until the worker takes the first event;
then both senders go. -/
def twoSends : List QueueAction :=
  [.clone, .send { type := .voteUp, userId := "ann" },
    .send { type := .answerCreate, userId := "ben" }, .work, .enter 0, .work, .work, .work, .drop,
    .drop, .work, .work, .work, .work]

/-- The failure of the first call changes none of the others. -/
theorem delivered_twoSends : ∃ q, (start .block 1 twoHandlers).run twoSends = some q ∧
    q.worker = .exited ∧ q.called.map (fun c => (c.1.name, c.2.userId)) =
      [("all", "ann"), ("votes", "ann"), ("all", "ben")] ∧
    q.metrics.count (.handlerFailure "all") = 1 := by
  obtain ⟨q, hrun, hexit, haccepted, hfailed⟩ : ∃ q,
      (start .block 1 twoHandlers).run twoSends = some q ∧ q.worker = .exited ∧
      q.accepted = [{ type := .voteUp, userId := "ann" }, { type := .answerCreate, userId := "ben" }] ∧
      q.handled.countP (fun c => c.failed && c.handler.name = "all") = 1 := ⟨_, rfl, rfl, rfl, rfl⟩
  obtain ⟨hdelivered, -⟩ := delivered hrun hexit
  refine ⟨q, hrun, hexit, ?_, ?_⟩
  · rw [hdelivered.called, haccepted]
    rfl
  · rw [hdelivered.counted, hfailed]

end EventQueue

end Forum
