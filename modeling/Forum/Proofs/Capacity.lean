import Forum.Proofs.Producers

/-!
# Places, answers and counts

Senders and the worker take turns in any order. The queue never holds more events than it has
places, and what it answers to the sends is what it counts.

* `SendOutcome.answer?`: what a send returns at once;
* `EventQueue.Return`, `EventQueue.returns`, `EventQueue.history`: the sends that return in a run,
  each with how the queue was at that moment;
* `Return.Fits`, `Return.metrics`: an answer that fits the moment, and what is counted for it;
* `EventQueue.Moves`: what an action makes of a queue, as far as sends can tell;
* `EventQueue.Ordered`: what is true of a queue and its history at every moment;
* **`moves_act`**: every action moves a queue so;
* **`Ordered.run`**: every run keeps it in order;
* **`sends_accounted`**: places, answers and counts after any run.
-/

namespace Forum

/-- What a send returns at once; none if it waits. -/
def SendOutcome.answer? : SendOutcome → Option Bool
  | accepted => some true
  | dropped | refused => some false
  | waiting _ => none

/-- Does a metric count the answer to a send? -/
def Metric.isSend : Metric → Bool
  | .eventEnqueued _ | .eventDropped _ => true
  | _ => false

namespace EventQueue

variable {q q' : EventQueue} {policy : OverflowPolicy} {capacity : Nat}

/-! ## Sends that return -/

/-- Are all places taken? -/
def isFull (q : EventQueue) : Bool := q.places ≤ q.buffer.length

/-- A send that has returned: its event and the answer, and whether at that moment the queue was
full and whether its worker was gone. -/
structure Return where
  event : Event
  accepted : Bool
  full : Bool
  closed : Bool

namespace Return

/-- The event and the answer. -/
def entry (r : Return) : Event × Bool := (r.event, r.accepted)

/-- The send was refused because the queue was full. -/
def overflows (r : Return) : Bool := !r.accepted && r.full && !r.closed

/-- The answer fits the moment. Where the newest event is dropped, a send is refused exactly when
the queue is full or the worker gone; where senders wait, only when the worker is gone. -/
def Fits (policy : OverflowPolicy) (r : Return) : Prop :=
  match policy with
  | .dropNewest => r.accepted = !(r.full || r.closed)
  | .block => r.accepted = false → r.closed = true

/-- The send was refused because the worker was gone. -/
def comesLate (r : Return) : Bool := !r.accepted && r.closed

/-- What is counted for an answer. -/
def metrics (r : Return) : List Metric :=
  if r.accepted then [.eventEnqueued r.event.type]
  else if r.overflows then [.eventDropped r.event.type]
  else []

/-- The send that has returned between two moments. -/
def between (q q' : EventQueue) (p : Event × Bool) : Return := ⟨p.1, p.2, q.isFull, q'.isClosed⟩

variable {rs : List Return} (t : EventType)

theorem count_enqueued : (rs.flatMap metrics).count (.eventEnqueued t) =
    rs.countP fun r => r.event.type = t && r.accepted := by
  rw [List.count_flatMap]
  induction rs with
  | nil => rfl
  | cons r rs ih =>
    rw [List.map_cons, List.sum_cons, ih, List.countP_cons, Nat.add_comm]
    refine congrArg _ ?_
    rw [Function.comp_apply, metrics]
    cases r.accepted <;> cases r.overflows <;> simp [List.count_singleton]

theorem count_dropped : (rs.flatMap metrics).count (.eventDropped t) =
    rs.countP fun r => r.event.type = t && r.overflows := by
  rw [List.count_flatMap]
  induction rs with
  | nil => rfl
  | cons r rs ih =>
    rw [List.map_cons, List.sum_cons, ih, List.countP_cons, Nat.add_comm]
    refine congrArg _ ?_
    rw [Function.comp_apply, metrics]
    cases ha : r.accepted <;> cases ho : r.overflows <;> simp [List.count_singleton]
    -- What is accepted does not overflow.
    simp [overflows, ha] at ho

/-- A send is accepted, or finds the queue full, or comes when the worker is gone. -/
theorem countP_eq {policy : OverflowPolicy} (h : ∀ r ∈ rs, r.Fits policy) :
    (rs.countP fun r => r.event.type = t) = (rs.countP fun r => r.event.type = t && r.accepted) +
      (rs.countP fun r => r.event.type = t && r.overflows) +
      rs.countP fun r => r.event.type = t && r.comesLate := by
  induction rs with
  | nil => rfl
  | cons r rs ih =>
    obtain ⟨hr, hrs⟩ := List.forall_mem_cons.mp h
    have hone : (if r.event.type = t then 1 else 0) =
        (if r.event.type = t ∧ r.accepted then 1 else 0) +
          (if r.event.type = t ∧ r.overflows then 1 else 0) +
          if r.event.type = t ∧ r.comesLate then 1 else 0 := by
      by_cases ht : r.event.type = t
      · cases policy <;> cases ha : r.accepted <;> cases hf : r.full <;> cases hc : r.closed <;>
          simp [Fits, overflows, comesLate, ht, ha, hf, hc] at hr ⊢
      · simp [ht]
    simp only [List.countP_cons, ih hrs, decide_eq_true_eq, Bool.and_eq_true]
    omega

end Return

/-- The sends that have returned between two moments. -/
def returns (q q' : EventQueue) : List Return :=
  (q'.returned.drop q.returned.length).map (.between q q')

/-- The sends that return in a run, in order. -/
def history (q : EventQueue) : List QueueAction → List Return
  | [] => []
  | a :: rest =>
    match q.act a with
    | some q' => q.returns q' ++ q'.history rest
    | none => []

theorem returns_eq {l : List (Event × Bool)} (h : q'.returned = q.returned ++ l) :
    q.returns q' = l.map (.between q q') := by
  rw [returns, h, List.drop_left]

theorem map_entry_returns {l : List (Event × Bool)} (h : q'.returned = q.returned ++ l) :
    (q.returns q').map Return.entry = l := by
  rw [returns_eq h, List.map_map]
  exact List.map_id l

theorem history_cons {a : QueueAction} {rest : List QueueAction} (h : q.act a = some q') :
    q.history (a :: rest) = q.returns q' ++ q'.history rest := by
  rw [history, h]

/-- The answers to sends that have been counted. -/
def sendMetrics (q : EventQueue) : List Metric := q.metrics.filter Metric.isSend

theorem count_sendMetrics {m : Metric} (h : m.isSend = true) :
    q.metrics.count m = q.sendMetrics.count m := (List.count_filter h).symm

/-! ## One action -/

/-- What an action makes of a queue, as far as sends can tell. -/
structure Moves (q q' : EventQueue) : Prop where
  policy : q'.policy = q.policy
  capacity : q'.capacity = q.capacity
  /-- Where the newest event is dropped, nobody begins to wait. -/
  prompt : q.policy = .dropNewest → q.waiting = [] → q'.waiting = []
  bounded : q.buffer.length ≤ q.places → q'.buffer.length ≤ q.places
  returned : ∃ l, q'.returned = q.returned ++ l
  fitting : ∀ r ∈ q.returns q', r.Fits q.policy
  counted : q'.sendMetrics = q.sendMetrics ++ (q.returns q').flatMap Return.metrics

namespace Moves

/-- An action in which no send returns, and none gets a place. -/
theorem quiet (policy : q'.policy = q.policy) (capacity : q'.capacity = q.capacity)
    (waiting : q.policy = .dropNewest → q.waiting = [] → q'.waiting = [])
    (buffer : q'.buffer.length ≤ q.buffer.length) (returned : q'.returned = q.returned)
    (counted : q'.sendMetrics = q.sendMetrics) : Moves q q' := by
  have hreturns : q.returns q' = [] := returns_eq (returned.trans (List.append_nil _).symm)
  refine ⟨policy, capacity, waiting, Nat.le_trans buffer, ⟨[], ?_⟩, ?_, ?_⟩
  · rw [returned, List.append_nil]
  · rw [hreturns]
    exact List.forall_mem_nil _
  · rw [hreturns, counted]
    exact (List.append_nil _).symm

theorem accepting (e : Event) (hopen : q.isClosed = false) (hplace : q.buffer.length < q.places)
    (waiting : List (Nat × Event)) (completed : List (Nat × Bool)) (sends : Nat)
    (hwaiting : q.waiting = [] → waiting = []) :
    Moves q ({ q with waiting, completed, sends }.accept e) := by
  have hfull : q.isFull = false := decide_eq_false (Nat.not_le.mpr hplace)
  have hreturns : q.returns ({ q with waiting, completed, sends }.accept e) =
      [⟨e, true, false, false⟩] := by
    have hafter : ({ q with waiting, completed, sends }.accept e).isClosed = false := hopen
    rw [returns_eq rfl, List.map_singleton, Return.between, hfull, hafter]
  refine ⟨rfl, rfl, fun _ => hwaiting, fun _ => ?_, ⟨_, rfl⟩, ?_, ?_⟩
  · change (q.buffer ++ [e]).length ≤ q.places
    rw [List.length_append, List.length_singleton]
    omega
  · rw [hreturns, List.forall_mem_singleton]
    cases q.policy <;> simp [Return.Fits]
  · rw [hreturns]
    exact List.filter_append ..

theorem dropping (e : Event) (hopen : q.isClosed = false) (hfull : q.isFull = true)
    (hpolicy : q.policy = .dropNewest) (sends : Nat) :
    Moves q { { q with sends }.refuse e with
      metrics := q.metrics ++ [.eventDropped e.type] } := by
  have hreturns : q.returns { { q with sends }.refuse e with
      metrics := q.metrics ++ [.eventDropped e.type] } = [⟨e, false, true, false⟩] := by
    have hafter : ({ { q with sends }.refuse e with
        metrics := q.metrics ++ [.eventDropped e.type] } : EventQueue).isClosed = false := hopen
    rw [returns_eq rfl, List.map_singleton, Return.between, hfull, hafter]
  refine ⟨rfl, rfl, fun _ => id, id, ⟨_, rfl⟩, ?_, ?_⟩
  · rw [hreturns, List.forall_mem_singleton, hpolicy]
    rfl
  · rw [hreturns]
    exact List.filter_append ..

theorem refusing (es : List Event) (policy : q'.policy = q.policy)
    (capacity : q'.capacity = q.capacity) (waiting : q.waiting = [] → q'.waiting = [])
    (buffer : q'.buffer.length ≤ q.buffer.length)
    (returned : q'.returned = q.returned ++ es.map (·, false))
    (counted : q'.sendMetrics = q.sendMetrics) (closed : q'.isClosed = true) : Moves q q' := by
  have hreturns : ∀ r ∈ q.returns q', r.accepted = false ∧ r.closed = true := by
    rw [returns_eq returned, List.map_map]
    intro r hr
    obtain ⟨e, -, rfl⟩ := List.mem_map.mp hr
    exact ⟨rfl, closed⟩
  refine ⟨policy, capacity, fun _ => waiting, Nat.le_trans buffer, ⟨_, returned⟩, fun r hr => ?_, ?_⟩
  · obtain ⟨haccepted, hclosed⟩ := hreturns r hr
    cases q.policy <;> simp [Return.Fits, haccepted, hclosed]
  · rw [counted, List.flatMap_eq_nil_iff.mpr fun r hr => ?_, List.append_nil]
    obtain ⟨haccepted, hclosed⟩ := hreturns r hr
    simp [Return.metrics, Return.overflows, haccepted, hclosed]

end Moves

/-- **What becomes of a send** at once. -/
theorem send_cases (q : EventQueue) (e : Event) :
    (q.isClosed = true ∧ q.send e = (.refused, { q with sends := q.sends + 1 }.refuse e)) ∨
    (q.isClosed = false ∧ q.buffer.length < q.places ∧
      q.send e = (.accepted, { q with sends := q.sends + 1 }.accept e)) ∨
    (q.isClosed = false ∧ q.isFull = true ∧ q.policy = .block ∧
      q.send e = (.waiting (q.sends + 1),
        { q with sends := q.sends + 1, waiting := q.waiting ++ [(q.sends + 1, e)] })) ∨
    (q.isClosed = false ∧ q.isFull = true ∧ q.policy = .dropNewest ∧
      q.send e = (.dropped, { { q with sends := q.sends + 1 }.refuse e with
        metrics := q.metrics ++ [.eventDropped e.type] })) := by
  by_cases hclosed : q.isClosed = true
  · exact .inl ⟨hclosed, if_pos hclosed⟩
  have hopen : q.isClosed = false := Bool.eq_false_iff.mpr hclosed
  by_cases hplace : q.buffer.length < q.places
  · exact .inr (.inl ⟨hopen, hplace, (if_neg hclosed).trans (if_pos hplace)⟩)
  have hfull : q.isFull = true := decide_eq_true (Nat.not_lt.mp hplace)
  cases hpolicy : q.policy with
  | block =>
    refine .inr (.inr (.inl ⟨hopen, hfull, rfl, (if_neg hclosed).trans ((if_neg hplace).trans ?_)⟩))
    simp only [hpolicy]
  | dropNewest =>
    refine .inr (.inr (.inr ⟨hopen, hfull, rfl, (if_neg hclosed).trans ((if_neg hplace).trans ?_)⟩))
    simp only [hpolicy]

theorem moves_send (q : EventQueue) (e : Event) : Moves q (q.send e).2 := by
  rcases q.send_cases e with ⟨hclosed, h⟩ | ⟨hopen, hplace, h⟩ | ⟨-, -, hblock, h⟩ |
    ⟨hopen, hfull, hnewest, h⟩
  · rw [h]
    exact .refusing [e] rfl rfl id (Nat.le_refl _) rfl rfl hclosed
  · rw [h]
    exact .accepting e hopen hplace q.waiting q.completed (q.sends + 1) id
  · rw [h]
    refine .quiet rfl rfl (fun hnewest _ => ?_) (Nat.le_refl _) rfl rfl
    rw [hblock] at hnewest
    cases hnewest
  · rw [h]
    exact .dropping e hopen hfull hnewest (q.sends + 1)

theorem moves_enter {i : Nat} (h : q.enter i = some q') : Moves q q' := by
  unfold enter at h
  split at h
  · cases h
  · next n e hi =>
    split at h
    · next hplace =>
      cases h
      have hopen : q.isClosed = false := by simpa using hplace.1
      refine .accepting e hopen hplace.2 _ _ q.sends fun hw => ?_
      rw [hw] at hi
      cases hi
    · cases h

theorem sendMetrics_handle (q : EventQueue) (h : EventHandler) (e : Event) :
    (q.handle h e).sendMetrics = q.sendMetrics := by
  change List.filter Metric.isSend (if h.fails q.calls e then _ else _) = _
  split
  · exact (List.filter_append ..).trans (List.append_nil _)
  · rfl

theorem moves_handleNext (h : q.handleNext = some q') : Moves q q' := by
  unfold handleNext at h
  split at h
  case h_1 =>
    cases h
    exact .quiet rfl rfl (fun _ => id) (Nat.le_refl _) rfl rfl
  case h_2 =>
    split at h
    · split at h
      · cases h
      · cases h
        exact .quiet rfl rfl (fun _ => id) (Nat.le_refl _) rfl (sendMetrics_handle ..)
    · cases h
      exact .quiet rfl rfl (fun _ => id) (Nat.le_refl _) rfl (sendMetrics_handle ..)
  case h_3 => cases h

theorem moves_receive (h : q.receive = some q') : Moves q q' := by
  unfold receive at h
  split at h
  case h_1 e buffer _ hb =>
    cases h
    refine .quiet rfl rfl (fun _ => id) ?_ rfl rfl
    rw [hb]
    exact Nat.le_succ _
  case h_2 =>
    split at h
    · cases h
      exact .quiet rfl rfl (fun _ => id) (Nat.le_refl _) rfl rfl
    · cases h
  case h_3 => cases h

theorem moves_drop (h : q.drop = some q') : Moves q q' := by
  unfold drop at h
  split at h
  · cases h
  · split at h
    · cases h
      exact .quiet rfl rfl (fun _ => id) (Nat.le_refl _) rfl rfl
    · cases h
  · cases h
    exact .quiet rfl rfl (fun _ => id) (Nat.le_refl _) rfl rfl

theorem moves_stop (q : EventQueue) : Moves q q.stop := by
  unfold stop
  split
  · exact .quiet rfl rfl (fun _ => id) (Nat.le_refl _) rfl rfl
  · refine .refusing (q.waiting.map (·.2)) rfl rfl (fun _ => rfl) (Nat.zero_le _) ?_ rfl rfl
    rw [List.map_map]
    rfl

/-- **Every action** moves a queue so. -/
theorem moves_act {a : QueueAction} (h : q.act a = some q') : Moves q q' := by
  cases a with
  | clone =>
    obtain ⟨-, he⟩ := Option.ite_none_left_eq_some.mp h
    cases he
    exact .quiet rfl rfl (fun _ => id) (Nat.le_refl _) rfl rfl
  | drop => exact moves_drop h
  | send e =>
    obtain ⟨-, he⟩ := Option.ite_none_left_eq_some.mp h
    cases he
    exact moves_send q e
  | enter i => exact moves_enter h
  | giveUp i =>
    cases h
    refine .quiet rfl rfl (fun _ hw => ?_) (Nat.le_refl _) rfl rfl
    change q.waiting.eraseIdx i = []
    rw [hw, List.eraseIdx_nil]
  | work =>
    change (q.handleNext <|> q.receive) = some q' at h
    cases hn : q.handleNext with
    | some q₁ =>
      rw [hn] at h
      cases h
      exact moves_handleNext hn
    | none =>
      rw [hn] at h
      exact moves_receive h
  | release n =>
    cases h
    exact .quiet rfl rfl (fun _ => id) (Nat.le_refl _) rfl rfl
  | stop =>
    cases h
    exact moves_stop q

/-! ## All actions -/

/-- What is true of a queue at every moment, and of the sends that have returned before. -/
structure Ordered (policy : OverflowPolicy) (capacity : Nat) (rs : List Return)
    (q : EventQueue) : Prop where
  policy_eq : q.policy = policy
  capacity_eq : q.capacity = capacity
  bounded : q.buffer.length ≤ max capacity 1
  prompt : policy = .dropNewest → q.waiting = []
  logged : q.returned = rs.map Return.entry
  fitting : ∀ r ∈ rs, r.Fits policy
  counted : q.sendMetrics = rs.flatMap Return.metrics

namespace Ordered

variable {rs : List Return}

theorem start (handlers : List EventHandler) :
    Ordered policy capacity [] (start policy capacity handlers) :=
  ⟨rfl, rfl, Nat.zero_le _, fun _ => rfl, rfl, List.forall_mem_nil _, rfl⟩

/-- **No action** brings a queue out of order. -/
theorem move (hq : Ordered policy capacity rs q) (h : Moves q q') :
    Ordered policy capacity (rs ++ q.returns q') q' := by
  obtain ⟨rfl, rfl, hbounded, hprompt, hlogged, hfitting, hcounted⟩ := hq
  obtain ⟨l, hl⟩ := h.returned
  refine ⟨h.policy, h.capacity, h.bounded hbounded, fun hp => h.prompt hp (hprompt hp), ?_, ?_, ?_⟩
  · rw [List.map_append, ← hlogged, map_entry_returns hl, hl]
  · exact List.forall_mem_append.mpr ⟨hfitting, h.fitting⟩
  · rw [h.counted, hcounted, List.flatMap_append]

/-- **No run** does. -/
theorem run {l : List QueueAction} (hq : Ordered policy capacity rs q) (h : q.run l = some q') :
    Ordered policy capacity (rs ++ q.history l) q' := by
  induction l generalizing q rs with
  | nil =>
    cases h
    rwa [history, List.append_nil]
  | cons a l ih =>
    rw [run_cons, Option.bind_eq_some_iff] at h
    obtain ⟨q₁, ha, hrest⟩ := h
    rw [history_cons ha, ← List.append_assoc]
    exact ih (hq.move (moves_act ha)) hrest

end Ordered

theorem returns_send (q : EventQueue) (e : Event) :
    (q.returns (q.send e).2).map Return.entry =
      ((q.send e).1.answer?.map fun accepted => (e, accepted)).toList := by
  refine map_entry_returns ?_
  rcases q.send_cases e with ⟨-, h⟩ | ⟨-, -, h⟩ | ⟨-, -, -, h⟩ | ⟨-, -, -, h⟩ <;> rw [h]
  · rfl
  · rfl
  · exact (List.append_nil _).symm
  · rfl

theorem buffer_send (q : EventQueue) (e : Event) : q.buffer <+: (q.send e).2.buffer := by
  have unchanged : ∀ {o}, q.send e = o → o.2.buffer = q.buffer →
      q.buffer <+: (q.send e).2.buffer := by
    rintro _ rfl hbuffer
    exact ⟨[], (List.append_nil _).trans hbuffer.symm⟩
  rcases q.send_cases e with ⟨-, h⟩ | ⟨-, -, h⟩ | ⟨-, -, -, h⟩ | ⟨-, -, -, h⟩
  · exact unchanged h rfl
  · exact ⟨[e], (congrArg (·.2.buffer) h).symm⟩
  · exact unchanged h rfl
  · exact unchanged h rfl

theorem answer?_of_dropNewest (hp : q.policy = .dropNewest) (e : Event) :
    (q.send e).1.answer? = some (!(q.isFull || q.isClosed)) := by
  rcases q.send_cases e with ⟨hclosed, h⟩ | ⟨hopen, hplace, h⟩ | ⟨-, -, hblock, -⟩ |
    ⟨-, hfull, -, h⟩
  · rw [h, hclosed, Bool.or_true]
    rfl
  · have hfull : q.isFull = false := decide_eq_false (Nat.not_le.mpr hplace)
    rw [h, hopen, hfull]
    rfl
  · rw [hp] at hblock
    cases hblock
  · rw [h, hfull]
    rfl

theorem isClosed_of_block (hp : q.policy = .block) {e : Event}
    (he : (q.send e).1.answer? = some false) : q.isClosed = true := by
  rcases q.send_cases e with ⟨hclosed, -⟩ | ⟨-, -, h⟩ | ⟨-, -, -, h⟩ | ⟨-, -, hnewest, -⟩
  · exact hclosed
  · rw [h] at he
    cases he
  · rw [h] at he
    cases he
  · rw [hp] at hnewest
    cases hnewest

/-- What can be told of a queue at a moment, of the sends that have returned before, and of the
next one. -/
structure Accounted (policy : OverflowPolicy) (capacity : Nat) (rs : List Return)
    (q : EventQueue) : Prop where
  /-- There are no more events than places. -/
  bounded : q.buffer.length ≤ max capacity 1
  /-- Where the newest event is dropped, nobody waits, and a send is refused exactly when the queue
  is full or the worker gone. -/
  newest : policy = .dropNewest → q.waiting = [] ∧
    (∀ e, (q.send e).1.answer? = some (!(q.isFull || q.isClosed))) ∧
    ∀ r ∈ rs, r.accepted = !(r.full || r.closed)
  /-- Where senders wait, a send is refused only when the worker is gone. -/
  patient : policy = .block → (∀ e, (q.send e).1.answer? = some false → q.isClosed = true) ∧
    ∀ r ∈ rs, r.accepted = false → r.closed = true
  /-- A send removes no event that was accepted before. -/
  kept : ∀ e, q.buffer <+: (q.send e).2.buffer
  /-- The sends that have returned are those of the history, -/
  logged : q.returned = rs.map Return.entry
  /-- and the next one is among them with its answer, unless it waits. -/
  told : ∀ e, (q.returns (q.send e).2).map Return.entry =
    ((q.send e).1.answer?.map fun accepted => (e, accepted)).toList
  /-- The sends that were accepted are counted, for each type of events. -/
  enqueued : ∀ t, q.metrics.count (.eventEnqueued t) =
    rs.countP fun r => r.event.type = t && r.accepted
  /-- So are those that found the queue full. -/
  dropped : ∀ t, q.metrics.count (.eventDropped t) =
    rs.countP fun r => r.event.type = t && r.overflows
  /-- Those that came when the worker was gone are the others. -/
  uncounted : ∀ t, (rs.countP fun r => r.event.type = t) =
    q.metrics.count (.eventEnqueued t) + q.metrics.count (.eventDropped t) +
      rs.countP fun r => r.event.type = t && r.comesLate

/-- **Places, answers and counts.** Any number of senders and the worker have taken turns in any
order. The queue has no more events than places. Where the newest event is dropped no send waits,
and it is refused exactly when the queue is full or the worker gone; where senders wait, a send is
refused only when the worker is gone. No send removes an event. For each type of events the sends
that were accepted are counted, and those that found the queue full, but not those that came when
the worker was gone. -/
theorem sends_accounted {handlers : List EventHandler} {actions : List QueueAction}
    (hrun : (start policy capacity handlers).run actions = some q) :
    Accounted policy capacity ((start policy capacity handlers).history actions) q := by
  have hordered := (Ordered.start handlers).run hrun
  rw [List.nil_append] at hordered
  obtain ⟨rfl, rfl, hbounded, hprompt, hlogged, hfitting, hcounted⟩ := hordered
  have henqueued : ∀ t, q.metrics.count (.eventEnqueued t) = _ := fun t => by
    rw [count_sendMetrics rfl, hcounted, Return.count_enqueued]
  have hdropped : ∀ t, q.metrics.count (.eventDropped t) = _ := fun t => by
    rw [count_sendMetrics rfl, hcounted, Return.count_dropped]
  refine ⟨hbounded, fun hp => ⟨hprompt hp, answer?_of_dropNewest hp, ?_⟩,
    fun hp => ⟨fun e => isClosed_of_block hp, ?_⟩, q.buffer_send, hlogged, q.returns_send,
    henqueued, hdropped, fun t => ?_⟩
  · simpa only [hp, Return.Fits] using hfitting
  · simpa only [hp, Return.Fits] using hfitting
  · rw [henqueued, hdropped]
    exact Return.countP_eq t hfitting

/-- A vote of a user. -/
def voteOf (user : String) : Event := { type := .voteUp, userId := user }

/-- A queue for one event: the second send finds it full, the third gets the place that the worker
has made free, and the last comes when the worker is gone. -/
def fourSends : List QueueAction :=
  [.send (voteOf "ann"), .send (voteOf "ben"), .work, .send (voteOf "cat"), .stop,
    .send (voteOf "dan")]

/-- The two that are accepted are counted, and the one that finds the queue full. -/
theorem sends_accounted_fourSends : ∃ q, (start .dropNewest 0 []).run fourSends = some q ∧
    (q.returned.map fun r => (r.1.userId, r.2)) =
      [("ann", true), ("ben", false), ("cat", true), ("dan", false)] ∧
    q.metrics.count (.eventEnqueued .voteUp) = 2 ∧ q.metrics.count (.eventDropped .voteUp) = 1 := by
  have hhistory : (start .dropNewest 0 []).history fourSends =
      [⟨voteOf "ann", true, false, false⟩, ⟨voteOf "ben", false, true, false⟩,
        ⟨voteOf "cat", true, false, false⟩, ⟨voteOf "dan", false, false, true⟩] := rfl
  obtain ⟨q, hrun, hreturned⟩ : ∃ q, (start .dropNewest 0 []).run fourSends = some q ∧
      (q.returned.map fun r => (r.1.userId, r.2)) =
        [("ann", true), ("ben", false), ("cat", true), ("dan", false)] := ⟨_, rfl, rfl⟩
  have haccounted := sends_accounted hrun
  rw [hhistory] at haccounted
  exact ⟨q, hrun, hreturned, haccounted.enqueued .voteUp, haccounted.dropped .voteUp⟩

end EventQueue

end Forum
