import Forum.Queue.Basic

/-!
# Producers and the worker

Any number of senders and the worker take turns in any order.

* `QueueAction`, `EventQueue.act`, `EventQueue.run`: what can happen to a queue, and a run of it;
* `EventQueue.accepted`, `called`, `pending`: the sends that were accepted, the calls of handlers so
  far, and those still to be made for the event that the worker is busy with;
* `EventQueue.Sound`: what is true of a queue at every moment;
* **`Sound.act`**, **`Sound.run`**: no action changes that;
* **`run_settle`**: a worker that goes on until it has to wait is a run.
-/

namespace Forum

/-- What can happen to a queue: its senders come and go, events are sent, waiting sends get a place
or are given up; the worker takes a step, or is stopped; handlers get permits. -/
inductive QueueAction where
  | clone
  | drop
  | send (e : Event)
  | enter (i : Nat)
  | giveUp (i : Nat)
  | work
  | release (n : Nat)
  | stop

/-- The calls that an event leads to: of all handlers that want it, in order. -/
def EventHandler.callsFor (handlers : List EventHandler) (e : Event) : List (EventHandler × Event) :=
  (handlers.filter fun h => h.supports e.type).map fun h => (h, e)

namespace EventQueue

variable {q q' : EventQueue} {handlers : List EventHandler}

/-- The queue after an action, if it can happen. -/
def act (q : EventQueue) : QueueAction → Option EventQueue
  | .clone => q.clone
  | .drop => q.drop
  | .send e => if q.clones = 0 then none else some (q.send e).2
  | .enter i => q.enter i
  | .giveUp i => some (q.giveUp i)
  | .work => q.handleNext <|> q.receive
  | .release n => some (q.release n)
  | .stop => some q.stop

/-- The queue after some actions, if they can happen one after another. -/
def run (q : EventQueue) (actions : List QueueAction) : Option EventQueue := actions.foldlM act q

theorem run_cons (a : QueueAction) (l : List QueueAction) :
    q.run (a :: l) = (q.act a).bind fun q => q.run l := rfl

theorem run_append {l l' : List QueueAction} : q.run (l ++ l') = (q.run l).bind fun q => q.run l' :=
  List.foldlM_append

/-- The events of the sends that were accepted, in order. -/
def accepted (q : EventQueue) : List Event := (q.returned.filter (·.2)).map (·.1)

/-- The calls of handlers so far, in order. -/
def called (q : EventQueue) : List (EventHandler × Event) :=
  q.handled.map fun c => (c.handler, c.event)

/-- The calls that are still to be made for the event that the worker is busy with. -/
def pending (q : EventQueue) : List (EventHandler × Event) :=
  match q.worker with
  | .busy e todo => todo.map fun h => (h, e)
  | _ => []

/-- What is true at every moment of a queue with these handlers. -/
structure Sound (handlers : List EventHandler) (q : EventQueue) : Prop where
  same : q.handlers = handlers
  /-- Accepted events have been taken or are in the queue. The calls that were made and are still to
  be made are those of the events that have been taken. -/
  line : q.worker ≠ .gone → ∃ taken, q.accepted = taken ++ q.buffer ∧
    q.called ++ q.pending = taken.flatMap (EventHandler.callsFor handlers)
  /-- The worker ends when nothing is left and nobody can send. -/
  ended : q.worker = .exited → q.buffer = [] ∧ q.clones = 0
  numbered : q.calls = q.handled.length
  /-- A call fails when its handler does. -/
  answered : ∀ (i : Nat) (c : HandlerCall), q.handled[i]? = some c →
    c.failed = c.handler.fails i c.event
  /-- Failures are counted for each name of a handler. -/
  counted : ∀ n, q.metrics.count (.handlerFailure n) =
    q.handled.countP fun c => c.failed && c.handler.name = n

namespace Sound

theorem start (policy : OverflowPolicy) (capacity : Nat) (handlers : List EventHandler) :
    Sound handlers (EventQueue.start policy capacity handlers) where
  same := rfl
  line _ := ⟨[], rfl, rfl⟩
  ended := nofun
  numbered := rfl
  answered i c hc := by
    rw [EventQueue.start, List.getElem?_nil] at hc
    cases hc
  counted _ := rfl

theorem frame (hs : Sound handlers q) (waiting : List (Nat × Event)) (completed : List (Nat × Bool))
    (permits sends : Nat) : Sound handlers { q with waiting, completed, permits, sends } :=
  ⟨hs.same, hs.line, hs.ended, hs.numbered, hs.answered, hs.counted⟩

theorem accept (hs : Sound handlers q) (hopen : q.isClosed = false) (e : Event) :
    Sound handlers (q.accept e) where
  same := hs.same
  line hw := by
    obtain ⟨taken, haccepted, hcalled⟩ := hs.line hw
    refine ⟨taken, ?_, hcalled⟩
    change ((q.returned ++ [(e, true)]).filter (·.2)).map (·.1) = taken ++ (q.buffer ++ [e])
    rw [List.filter_append, List.map_append, ← List.append_assoc, ← haccepted]
    rfl
  ended hw := by
    have hclosed : q.isClosed = true := by
      change q.worker = .exited at hw
      rw [isClosed, hw]
    rw [hopen] at hclosed
    cases hclosed
  numbered := hs.numbered
  answered := hs.answered
  counted n := by
    change (q.metrics ++ [Metric.eventEnqueued e.type]).count (Metric.handlerFailure n) = _
    rw [List.count_append, hs.counted n]
    rfl

theorem refuse (hs : Sound handlers q) (e : Event) : Sound handlers (q.refuse e) where
  same := hs.same
  line hw := by
    obtain ⟨taken, haccepted, hcalled⟩ := hs.line hw
    refine ⟨taken, ?_, hcalled⟩
    change ((q.returned ++ [(e, false)]).filter (·.2)).map (·.1) = taken ++ q.buffer
    rw [List.filter_append, List.map_append, ← haccepted]
    exact List.append_nil _
  ended := hs.ended
  numbered := hs.numbered
  answered := hs.answered
  counted := hs.counted

theorem send (hs : Sound handlers q) (e : Event) : Sound handlers (q.send e).2 := by
  have hsends : Sound handlers { q with sends := q.sends + 1 } := hs.frame _ _ _ _
  unfold EventQueue.send
  dsimp only
  split
  · exact hsends.refuse e
  next hopen =>
  split
  · exact hsends.accept (Bool.eq_false_iff.mpr hopen) e
  split
  · exact hs.frame _ _ _ _
  · obtain ⟨hsame, hline, hended, hnumbered, hanswered, hcounted⟩ := hsends.refuse e
    refine ⟨hsame, hline, hended, hnumbered, hanswered, fun n => ?_⟩
    change (q.metrics ++ [Metric.eventDropped e.type]).count (Metric.handlerFailure n) = _
    rw [List.count_append]
    exact hcounted n

theorem enter (hs : Sound handlers q) {i : Nat} (h : q.enter i = some q') : Sound handlers q' := by
  unfold EventQueue.enter at h
  split at h
  · cases h
  · next n e _ =>
    have hentered : Sound handlers { q with
        waiting := q.waiting.eraseIdx i, completed := q.completed ++ [(n, true)] } :=
      hs.frame _ _ _ _
    split at h
    · next hplace =>
      cases h
      have hopen : q.isClosed = false := by simpa using hplace.1
      exact hentered.accept hopen e
    · cases h

theorem receive (hs : Sound handlers q) (h : q.receive = some q') : Sound handlers q' := by
  unfold EventQueue.receive at h
  split at h
  case h_1 e buffer hw hb =>
    -- The first event of the queue is the next one taken; its calls become those still to be made.
    cases h
    obtain ⟨taken, haccepted, hcalled⟩ := hs.line (by rw [hw]; nofun)
    refine ⟨hs.same, fun _ => ⟨taken ++ [e], ?_, ?_⟩, nofun, hs.numbered, hs.answered, hs.counted⟩
    · rw [List.append_assoc, List.singleton_append, ← hb]
      exact haccepted
    · have hpending : q.pending = [] := by rw [pending, hw]
      rw [hpending, List.append_nil] at hcalled
      rw [List.flatMap_append, List.flatMap_singleton, ← hcalled, ← hs.same]
      rfl
  case h_2 hw hb =>
    split at h
    · next hclones =>
      cases h
      obtain ⟨taken, haccepted, hcalled⟩ := hs.line (by rw [hw]; nofun)
      rw [pending, hw] at hcalled
      exact ⟨hs.same, fun _ => ⟨taken, haccepted, hcalled⟩, fun _ => ⟨hb, hclones⟩, hs.numbered,
        hs.answered, hs.counted⟩
    · cases h
  case h_3 => cases h

theorem handle {e : Event} {h : EventHandler} {todo : List EventHandler} (hs : Sound handlers q)
    (hw : q.worker = .busy e (h :: todo)) :
    Sound handlers ({ q with worker := .busy e todo }.handle h e) where
  same := hs.same
  line _ := by
    obtain ⟨taken, haccepted, hcalled⟩ := hs.line (by rw [hw]; nofun)
    refine ⟨taken, haccepted, ?_⟩
    rw [pending, hw] at hcalled
    change (q.handled ++ [_]).map _ ++ todo.map (fun h => (h, e)) = _
    rw [List.map_append, List.append_assoc]
    exact hcalled
  ended := nofun
  numbered := by
    change q.calls + 1 = (q.handled ++ [_]).length
    rw [List.length_append, hs.numbered]
    rfl
  answered i c hc := by
    change (q.handled ++ [_])[i]? = some c at hc
    rw [List.getElem?_append] at hc
    split at hc
    · exact hs.answered i c hc
    · next hi =>
      obtain ⟨hlast, hcall⟩ := List.getElem?_eq_some_iff.mp hc
      have hi : i = q.calls := by
        rw [List.length_singleton] at hlast
        rw [hs.numbered]
        omega
      rw [List.getElem_singleton] at hcall
      rw [← hcall, hi]
  counted n := by
    change (if h.fails q.calls e then q.metrics ++ [Metric.handlerFailure h.name] else
      q.metrics).count _ = (q.handled ++ [HandlerCall.mk h e (h.fails q.calls e)]).countP _
    rw [List.countP_append, ← hs.counted n, List.countP_singleton]
    split
    · next hfails =>
      rw [List.count_append, List.count_singleton]
      simp [hfails]
    · next hfails => simp [hfails]

theorem handleNext (hs : Sound handlers q) (h : q.handleNext = some q') : Sound handlers q' := by
  unfold EventQueue.handleNext at h
  split at h
  case h_1 e hw =>
    cases h
    obtain ⟨taken, haccepted, hcalled⟩ := hs.line (by rw [hw]; nofun)
    rw [pending, hw] at hcalled
    exact ⟨hs.same, fun _ => ⟨taken, haccepted, hcalled⟩, nofun, hs.numbered, hs.answered,
      hs.counted⟩
  case h_2 e next todo hw =>
    split at h
    · split at h
      · cases h
      · next permits _ =>
        cases h
        have hpermits : Sound handlers { q with permits } := hs.frame _ _ _ _
        exact hpermits.handle hw
    · cases h
      exact hs.handle hw
  case h_3 => cases h

theorem clone (hs : Sound handlers q) (h : q.clone = some q') : Sound handlers q' := by
  unfold EventQueue.clone at h
  split at h
  · cases h
  · next hclones =>
    cases h
    exact ⟨hs.same, hs.line, fun hw => absurd (hs.ended hw).2 hclones, hs.numbered, hs.answered,
      hs.counted⟩

theorem drop (hs : Sound handlers q) (h : q.drop = some q') : Sound handlers q' := by
  unfold EventQueue.drop at h
  split at h
  · cases h
  · split at h
    · cases h
      exact ⟨hs.same, hs.line, fun hw => ⟨(hs.ended hw).1, rfl⟩, hs.numbered, hs.answered,
        hs.counted⟩
    · cases h
  · next hclones =>
    cases h
    refine ⟨hs.same, hs.line, fun hw => ?_, hs.numbered, hs.answered, hs.counted⟩
    have := (hs.ended hw).2
    omega

theorem stop (hs : Sound handlers q) : Sound handlers q.stop := by
  unfold EventQueue.stop
  split
  · exact hs
  · exact ⟨hs.same, fun hw => absurd rfl hw, nofun, hs.numbered, hs.answered, hs.counted⟩

/-- **No action** changes what is true at every moment. -/
theorem act {a : QueueAction} (hs : Sound handlers q) (h : q.act a = some q') :
    Sound handlers q' := by
  cases a with
  | clone => exact hs.clone h
  | drop => exact hs.drop h
  | send e =>
    change (if q.clones = 0 then none else some (q.send e).2) = some q' at h
    split at h
    · cases h
    · cases h
      exact hs.send e
  | enter i => exact hs.enter h
  | giveUp i =>
    cases h
    exact hs.frame _ _ _ _
  | work =>
    change (q.handleNext <|> q.receive) = some q' at h
    cases hn : q.handleNext with
    | some q₁ =>
      rw [hn] at h
      cases h
      exact hs.handleNext hn
    | none =>
      rw [hn] at h
      exact hs.receive h
  | release n =>
    cases h
    exact hs.frame _ _ _ _
  | stop =>
    cases h
    exact hs.stop

/-- **No run** changes it. -/
theorem run {l : List QueueAction} (hs : Sound handlers q) (h : q.run l = some q') :
    Sound handlers q' := by
  induction l generalizing q with
  | nil =>
    cases h
    exact hs
  | cons a l ih =>
    rw [run_cons, Option.bind_eq_some_iff] at h
    obtain ⟨q₁, ha, hrest⟩ := h
    exact ih (hs.act ha) hrest

end Sound

/-! ## A worker that is left alone -/

theorem run_step (h : q.step = some q') : ∃ l, q.run l = some q' := by
  have worked : ∀ {q₁}, (q.handleNext <|> q.receive) = some q₁ → ∀ l, q.run (.work :: l) = q₁.run l :=
    fun h l => by rw [run_cons, act, h, Option.bind_some]
  unfold step at h
  cases hn : q.handleNext with
  | some q₁ =>
    rw [hn] at h
    cases h
    exact ⟨[.work], worked (by rw [hn]; rfl) []⟩
  | none =>
    rw [hn] at h
    change q.receive.map fillPlace = some q' at h
    obtain ⟨q₁, hr, rfl⟩ := Option.map_eq_some_iff.mp h
    have hwork : (q.handleNext <|> q.receive) = some q₁ := by
      rw [hn]
      exact hr
    unfold fillPlace
    cases he : q₁.enter 0 with
    | none => exact ⟨[.work], worked hwork []⟩
    | some q₂ =>
      refine ⟨[.work, .enter 0], ?_⟩
      rw [worked hwork, run_cons, act, he]
      rfl

theorem run_steps (fuel : Nat) : ∃ l, q.run l = some (steps fuel q) := by
  induction fuel generalizing q with
  | zero => exact ⟨[], rfl⟩
  | succ fuel ih =>
    unfold steps
    cases h : q.step with
    | none => exact ⟨[], rfl⟩
    | some q₁ =>
      obtain ⟨l, hl⟩ := run_step h
      obtain ⟨l', hl'⟩ := ih (q := q₁)
      refine ⟨l ++ l', ?_⟩
      rw [run_append, hl]
      exact hl'

/-- **A worker that goes on** until it has to wait: a run of it. -/
theorem run_settle : ∃ l, q.run l = some q.settle := run_steps _

end EventQueue

end Forum
