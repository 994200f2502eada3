import Forum.Proofs.Ledger

/-!
# Awards that do not disturb each other

The awards that are proposed for an event are made one after another. Any look-up, any award and any
notification can fail, each by what it is about. Yet what becomes of one proposal is what would
become of it alone, if the others are for other badges.

* `Script.run_congr`: scripts that agree on what a program asks;
* `World.withAwards`: the answers of a world in which awards are stored, and any call can fail;
  `World.notifying`: a world with other answers to notifications;
* `Awarding.Concerns`, **`run_award_congr`**: what an award asks, and what it depends on;
* `Awarding.notices`, `run_grant`: the notifications that are tried, and one proposal;
* **`run_grants`**: proposals for distinct badges, each as if it were alone;
* `World.handling`, `World.awarded`; **`handle_each_alone`**: an event.
-/

namespace Forum

/-! ## What scripts answer -/

section Scripts

variable {Op : Type} {Ans : Op → Type} {α : Type}

/-- **Scripts that agree on all that a program asks** give the same run. -/
theorem Script.run_congr {P : Op → Prop} {p : Program Op Ans α} (hp : p.Asks P)
    {s s' : Script Ans} (h : ∀ past op, P op → s past op = s' past op) : s.run p = s'.run p := by
  induction p generalizing s s' with
  | done a => rfl
  | ask op next ih =>
    have hop : s [] op = s' [] op := h [] op hp.1
    have hrest : ∀ t, (s.after t).run (next (s' [] op)) = (s'.after t).run (next (s' [] op)) :=
      fun t => ih _ (hp.2 _) fun past op => h (t ++ past) op
    rw [run_ask, run_ask, hop, hrest]

theorem Program.Plays.forall_mem {P : Op → Prop} {p : Program Op Ans α} (hp : p.Asks P)
    {t : Transcript Ans} {a : α} (h : p.Plays t a) : ∀ x ∈ t, P x.op := by
  induction p generalizing t with
  | done b =>
    obtain ⟨rfl, -⟩ := h
    exact List.forall_mem_nil _
  | ask op next ih =>
    obtain ⟨r, rest, rfl, hrest⟩ := h
    exact List.forall_mem_cons.mpr ⟨hp.1, ih r (hp.2 r) hrest⟩

theorem Script.run_eq_result {P : Effect → Prop} {p : Service α} (hp : p.Asks P) (w : World)
    {s : Script Effect.Answer} (h : ∀ past op, P op → s past op = w.reply op) :
    (s.run p).1 = w.result p := by
  induction p generalizing s with
  | done a => rfl
  | ask op next ih =>
    have hafter : ∀ past op', P op' → s.after [⟨op, s [] op⟩] past op' = w.reply op' :=
      fun past => h (_ ++ past)
    rw [run_ask, World.result_ask, ← h [] op hp.1]
    exact ih _ (hp.2 _) hafter

theorem Script.run_lift {ε : Type} (s : Script Ans) (p : Program Op Ans α) :
    s.run (liftM p : ExceptT ε (Program Op Ans) α).run = (.ok (s.run p).1, (s.run p).2) := by
  change s.run (ExceptT.lift p).run = _
  rw [ExceptT.run_lift, map_eq_pure_bind, run_bind]
  exact congrArg (Prod.mk _) (List.append_nil _)

theorem Script.run_forM_lift {ε β : Type} (f : β → Program Op Ans Unit) (s : Script Ans)
    (l : List β) :
    s.run (l.forM fun b => liftM (f b) : ExceptT ε (Program Op Ans) Unit).run =
      (.ok (), (s.run (l.forM f)).2) := by
  induction l generalizing s with
  | nil => rfl
  | cons b l ih =>
    change s.run (liftM (f b) >>= fun _ => l.forM fun b => liftM (f b) :
      ExceptT ε (Program Op Ans) Unit).run = (.ok (), (s.run (f b >>= fun _ => l.forM f)).2)
    rw [run_bind_except, run_lift, run_bind, ih]

end Scripts

open Awarding

/-- The answers of a world in which some awards are stored at first. A look-up of an award that does
not fail tells whether it is among these or those stored since. Every call fails or not by its
arguments. -/
def World.withAwards (w : World) (held : List Grant) : Script Effect.Answer
  | past, .call (.hasBadge u b) =>
    (w.answer (.hasBadge u b)).map fun _ => (held ++ store past).any (holds u b)
  | past, .call (.hasAward u b k) =>
    (w.answer (.hasAward u b k)).map fun _ => decide (⟨u, b, k⟩ ∈ held ++ store past)
  | _, op => w.reply op

theorem World.after_withAwards (w : World) (held : List Grant) (t : Transcript Effect.Answer) :
    (w.withAwards held).after t = w.withAwards (held ++ store t) := by
  funext past op
  cases op with
  | count m => rfl
  | offer e => rfl
  | call c =>
    cases c with
    | hasBadge | hasAward =>
      simp only [Script.after, withAwards, store_append, List.append_assoc]
    | _ => rfl

/-- The world, with other answers to notifications. -/
def World.notifying (w : World) (f : NewNotification → Except ServiceError Int) : World where
  answer
    | .addNotification n => f n
    | c => w.answer c
  accepts := w.accepts

namespace Awarding

/-! ## One award -/

/-- The operations of an award of a badge. -/
def Concerns (b : Int) : Effect → Prop
  | .call (.getBadge id) => id = b
  | .call (.hasBadge _ id) => id = b
  | .call (.hasAward _ id _) => id = b
  | .call (.addAward g) => g.badgeId = b
  | .count _ => True
  | _ => False

theorem asks_isDuplicate (badge : Badge) (g : Grant) (force : Bool) :
    (isDuplicate badge g force).run.Asks (Concerns g.badgeId) := by
  unfold isDuplicate
  split
  · exact ⟨rfl, fun _ => trivial⟩
  · trivial
  · exact ⟨rfl, fun _ => trivial⟩

theorem asks_award (g : Grant) (force : Bool) :
    (award g force).run.Asks (Concerns g.badgeId) := by
  have hcount : ∀ (m : Metric) (b : Bool), (do
      (liftM (Service.count m) : Fallible Unit)
      return b : Fallible Bool).run.Asks (Concerns g.badgeId) := fun _ _ =>
    ⟨trivial, fun _ => trivial⟩
  have hbadge : (Service.call (.getBadge g.badgeId)).run.Asks (Concerns g.badgeId) :=
    ⟨rfl, fun _ => trivial⟩
  have hstore : (Service.call (.addAward g)).run.Asks (Concerns g.badgeId) :=
    ⟨rfl, fun _ => trivial⟩
  refine hbadge.bind_except fun found => ?_
  cases found with
  | none => trivial
  | some badge =>
    have hend : ∀ skip : Bool, (if skip = true then (do
        (liftM (Service.count (.badgeAward badge.handler .skipped)) : Fallible Unit)
        return false : Fallible Bool)
      else do
        let _ ← Service.call (.addAward g)
        (liftM (Service.count (.badgeAward badge.handler .awarded)) : Fallible Unit)
        return true).run.Asks (Concerns g.badgeId) := by
      rintro (_ | _)
      · exact hstore.bind_except fun _ => hcount _ _
      · exact hcount _ _
    dsimp only
    split
    · exact (asks_isDuplicate badge g force).bind_except hend
    · exact hend true

variable {w w' : World} {held held' : List Grant} {g : Grant} {notify : Bool} {e : Event}

/-- **What an award depends on**: the answers that are about its badge, and the awards of its badge
that are stored. -/
theorem run_award_congr {force : Bool}
    (hw : ∀ c, Concerns g.badgeId (.call c) → w.answer c = w'.answer c)
    (hheld : ∀ g', g'.badgeId = g.badgeId → (g' ∈ held ↔ g' ∈ held')) :
    (w.withAwards held).run (award g force).run =
      (w'.withAwards held').run (award g force).run := by
  refine Script.run_congr (asks_award g force) fun past op hop => ?_
  cases op with
  | count m => rfl
  | offer e => exact hop.elim
  | call c =>
    have hanswer := hw c hop
    cases c with
    | hasBadge u b =>
      obtain rfl : b = g.badgeId := hop
      have hany : (held ++ store past).any (holds u g.badgeId) =
          (held' ++ store past).any (holds u g.badgeId) := by
        rw [Bool.eq_iff_iff, List.any_eq_true, List.any_eq_true]
        refine exists_congr fun g' => and_congr_left fun hholds => ?_
        have hid : g'.badgeId = g.badgeId := by
          simp only [holds, Bool.and_eq_true, decide_eq_true_eq] at hholds
          exact hholds.2
        rw [List.mem_append, List.mem_append, hheld g' hid]
      change Except.map _ _ = Except.map _ _
      rw [hanswer, hany]
    | hasAward u b k =>
      obtain rfl : b = g.badgeId := hop
      change Except.map _ _ = Except.map _ _
      rw [hanswer]
      simp only [List.mem_append, hheld ⟨u, g.badgeId, k⟩ rfl]
    | _ => exact hanswer

/-! ## One proposal -/

/-- The notification that an exchange tries to send. -/
def notice? : Exchange Effect.Answer → Option NewNotification
  | ⟨.call (.addNotification n), _⟩ => some n
  | _ => none

/-- The notifications that some exchanges try to send, in order. -/
def notices (t : Transcript Effect.Answer) : List NewNotification := t.filterMap notice?

@[simp] theorem notices_append (t t' : Transcript Effect.Answer) :
    notices (t ++ t') = notices t ++ notices t' := List.filterMap_append

/-- The exchange, with another answer if it is about a notification. -/
def renotify (f : NewNotification → Except ServiceError Int) :
    Exchange Effect.Answer → Exchange Effect.Answer
  | ⟨.call (.addNotification n), _⟩ => ⟨.call (.addNotification n), f n⟩
  | x => x

/-- How an award is told of: to whom it was made, as caused by the one who acted. -/
def noticeOf (e : Event) (g : Grant) : NewNotification := ⟨g.userId, e.userId, g.key, .badgeAward⟩

theorem map_renotify_eq_self {t : Transcript Effect.Answer} (h : notices t = [])
    (f : NewNotification → Except ServiceError Int) : t.map (renotify f) = t := by
  refine (List.map_congr_left fun x hx => ?_).trans (List.map_id t)
  have hno : notice? x = none := List.filterMap_eq_nil_iff.mp h x hx
  unfold renotify
  split
  · cases hno
  · rfl

theorem notices_award (s : Script Effect.Answer) (g : Grant) (force : Bool) :
    notices (s.run (award g force).run).2 = [] := by
  refine List.filterMap_eq_nil_iff.mpr fun x hx => ?_
  have hop := (s.plays_run (award g force).run).forall_mem (asks_award g force) x hx
  unfold notice?
  split
  · exact hop.elim
  · rfl

theorem store_award (s : Script Effect.Answer) (g : Grant) (force : Bool) :
    store (s.run (award g force).run).2 =
      if hasMade (s.run (award g force).run).1 then [g] else [] :=
  (course_of_plays (s.plays_run (award g force).run)).store_eq

/-- What is exchanged to tell of an award that was made. -/
def telling (w : World) (notify : Bool) (e : Event) (g : Grant) (made : Bool) :
    Transcript Effect.Answer :=
  if notify && made then
    [⟨.call (.addNotification (noticeOf e g)), w.answer (.addNotification (noticeOf e g))⟩]
  else []

theorem store_telling (made : Bool) : store (telling w notify e g made) = [] := by
  unfold telling
  split <;> rfl

theorem notices_telling (made : Bool) :
    notices (telling w notify e g made) = if notify && made then [noticeOf e g] else [] := by
  unfold telling
  split <;> rfl

/-- **One proposal**: its award and, if it was made, its notification, which may fail. -/
theorem run_grant (w : World) (held : List Grant) (notify : Bool) (e : Event) (g : Grant) :
    (w.withAwards held).run (Reactor.grant notify e g) =
      ((), ((w.withAwards held).run (award g false).run).2 ++
        telling w notify e g (hasMade ((w.withAwards held).run (award g false).run).1)) := by
  rw [Reactor.grant, Script.run_bind, World.after_withAwards]
  cases ((w.withAwards held).run (award g false).run).1 with
  | error err =>
    rw [telling, hasMade, Bool.and_false]
    rfl
  | ok made => cases made <;> cases notify <;> rfl

/-- A proposal goes the same way whatever becomes of its notification. -/
theorem run_grant_notifying (f : NewNotification → Except ServiceError Int) :
    (((w.notifying f).withAwards held).run (Reactor.grant notify e g)).2 =
      ((w.withAwards held).run (Reactor.grant notify e g)).2.map (renotify f) := by
  have haward : ((w.notifying f).withAwards held).run (award g false).run =
      (w.withAwards held).run (award g false).run := by
    refine run_award_congr (fun c hc => ?_) fun _ _ => Iff.rfl
    cases c with
    | addNotification => exact hc.elim
    | _ => rfl
  rw [run_grant, run_grant, haward, List.map_append, map_renotify_eq_self (notices_award _ g false)]
  unfold telling
  split <;> rfl

theorem store_grant : store ((w.withAwards held).run (Reactor.grant notify e g)).2 =
    if hasMade ((w.withAwards held).run (award g false).run).1 then [g] else [] := by
  rw [run_grant, store_append, store_telling, List.append_nil, store_award]

theorem notices_grant : notices ((w.withAwards held).run (Reactor.grant notify e g)).2 =
    if notify then
      (store ((w.withAwards held).run (Reactor.grant notify e g)).2).map (noticeOf e)
    else [] := by
  rw [store_grant, run_grant, notices_append, notices_award, List.nil_append, notices_telling]
  cases notify <;> cases hasMade ((w.withAwards held).run (award g false).run).1 <;> rfl

/-! ## Proposals in turn -/

/-- Awards of other badges make no difference to a proposal. -/
theorem run_grant_congr (hheld : ∀ g', g'.badgeId = g.badgeId → (g' ∈ held ↔ g' ∈ held')) :
    (w.withAwards held).run (Reactor.grant notify e g) =
      (w.withAwards held').run (Reactor.grant notify e g) := by
  rw [run_grant, run_grant, run_award_congr (fun _ _ => rfl) hheld]

/-- **Proposals for distinct badges**: all is exchanged as if each were alone. -/
theorem run_grants {gs : List Grant} (hd : (gs.map Grant.badgeId).Nodup) (w : World)
    (held : List Grant) (notify : Bool) (e : Event) :
    (w.withAwards held).run (gs.forM (Reactor.grant notify e)) =
      ((), gs.flatMap fun g => ((w.withAwards held).run (Reactor.grant notify e g)).2) := by
  induction gs generalizing held with
  | nil => rfl
  | cons g gs ih =>
    obtain ⟨hnew, hd⟩ := List.nodup_cons.mp hd
    -- The first proposal can only have stored an award of its own badge, which is not theirs.
    have hrest : ∀ g' ∈ gs, ((w.withAwards (held ++
        store ((w.withAwards held).run (Reactor.grant notify e g)).2)).run
          (Reactor.grant notify e g')).2 =
        ((w.withAwards held).run (Reactor.grant notify e g')).2 := by
      intro g' hg'
      have hother : g.badgeId ≠ g'.badgeId := fun h => hnew (h ▸ List.mem_map_of_mem hg')
      rw [run_grant_congr fun g'' hid => ?_]
      rw [store_grant, List.mem_append, or_iff_left]
      intro hmem
      split at hmem
      · obtain rfl := List.mem_singleton.mp hmem
        exact hother hid
      · cases hmem
    change (w.withAwards held).run (Reactor.grant notify e g >>= fun _ => gs.forM _) = _
    rw [Script.run_bind, World.after_withAwards, ih hd, List.flatMap_cons]
    exact congrArg (fun t => ((), _ ++ t)) (List.flatMap_congr hrest)

end Awarding

/-! ## An event -/

namespace World

variable (w : World) (held : List Grant) (notify : Bool) (e : Event)

/-- The handling of an event when some awards are stored: its result, and what is exchanged. -/
def handling : Except SystemError Unit × Transcript Effect.Answer :=
  (w.withAwards held).run ((Reactor.badges notify).handle e).run

/-- What is exchanged to find out what is proposed for an event. -/
def evaluation : Transcript Effect.Answer := ((w.withAwards held).run (BadgeRule.evaluate e).run).2

/-- The awards that are stored if this proposal is the only one. -/
def awarded (g : Grant) : List Grant :=
  store ((w.withAwards held).run (Reactor.grant notify e g)).2

/-- In the world `w'` an award is all that is proposed for an event, and what the award asks is
answered as in the world `w`. -/
structure ProposesOnly (w w' : World) (e : Event) (g : Grant) : Prop where
  only : w'.result (BadgeRule.evaluate e).run = .ok [g]
  same : ∀ c, Concerns g.badgeId (.call c) → w'.answer c = w.answer c

variable {w held notify e}

theorem evaluation_forall {P : Exchange Effect.Answer → Prop}
    (h : ∀ x, BadgeRule.Reads e x.op → P x) : ∀ x ∈ w.evaluation held e, P x := fun x hx =>
  h x (((w.withAwards held).plays_run _).forall_mem (BadgeRule.asks_evaluate e) x hx)

theorem store_evaluation : store (w.evaluation held e) = [] := by
  refine List.filterMap_eq_nil_iff.mpr (evaluation_forall fun x hx => ?_)
  unfold stored?
  split
  · exact hx.elim
  · rfl

theorem notices_evaluation : notices (w.evaluation held e) = [] := by
  refine List.filterMap_eq_nil_iff.mpr (evaluation_forall fun x hx => ?_)
  unfold notice?
  split
  · exact hx.elim
  · rfl

theorem withAwards_of_reads {op : Effect} (hop : BadgeRule.Reads e op)
    {past : Transcript Effect.Answer} : w.withAwards held past op = w.reply op := by
  cases op with
  | count m => rfl
  | offer e => rfl
  | call c =>
    cases c with
    | hasBadge | hasAward => exact hop.elim
    | _ => rfl

theorem reply_notifying_of_reads {op : Effect} (hop : BadgeRule.Reads e op)
    {f : NewNotification → Except ServiceError Int} : (w.notifying f).reply op = w.reply op := by
  cases op with
  | count m => rfl
  | offer e => rfl
  | call c =>
    cases c with
    | addNotification => exact hop.elim
    | _ => rfl

variable (held) in
theorem result_evaluate : ((w.withAwards held).run (BadgeRule.evaluate e).run).1 =
    w.result (BadgeRule.evaluate e).run :=
  Script.run_eq_result (BadgeRule.asks_evaluate e) w fun _ _ hop => withAwards_of_reads hop

/-- **How an event is handled**: it is evaluated, and what is proposed is tried in turn. -/
theorem handling_eq : w.handling held notify e =
    match w.result (BadgeRule.evaluate e).run with
    | .ok gs => (.ok (), w.evaluation held e ++
        ((w.withAwards held).run (gs.forM (Reactor.grant notify e))).2)
    | .error err => (.error (.handler "badge" err.message), w.evaluation held e) := by
  rw [handling, Reactor.handle, Script.run_bind_except, Script.run_lift,
    result_evaluate, World.after_withAwards,
    ← evaluation, store_evaluation, List.append_nil]
  cases w.result (BadgeRule.evaluate e).run with
  | ok gs =>
    dsimp only
    rw [Script.run_forM_lift]
  | error err => exact congrArg (Prod.mk _) (List.append_nil _)

variable {gs : List Grant} (h : w.result (BadgeRule.evaluate e).run = .ok gs)
  (hd : (gs.map Grant.badgeId).Nodup)

include h hd

theorem handling_of_ok : w.handling held notify e = (.ok (), w.evaluation held e ++
    gs.flatMap fun g => ((w.withAwards held).run (Reactor.grant notify e g)).2) := by
  rw [handling_eq, h]
  dsimp only
  rw [run_grants hd]

theorem store_handling :
    store (w.handling held notify e).2 = gs.flatMap (w.awarded held notify e) := by
  rw [handling_of_ok h hd, store_append, store_evaluation, List.nil_append, store,
    List.filterMap_flatMap]
  rfl

/-- **What is told of**: every award that is made, in order, and nothing else. -/
theorem notices_handling : notices (w.handling held notify e).2 =
    (if notify then store (w.handling held notify e).2 else []).map (noticeOf e) := by
  have hgrants : notices (w.handling held notify e).2 =
      gs.flatMap fun g => if notify then (w.awarded held notify e g).map (noticeOf e) else [] := by
    rw [handling_of_ok h hd, notices_append, notices_evaluation, List.nil_append, notices,
      List.filterMap_flatMap]
    exact List.flatMap_congr fun g _ => notices_grant
  rw [hgrants, store_handling h hd]
  cases notify with
  | true => exact List.map_flatMap.symm
  | false => exact List.flatMap_eq_nil_iff.mpr fun _ _ => rfl

theorem handling_notifying (f : NewNotification → Except ServiceError Int) :
    (w.notifying f).handling held notify e =
      ((w.handling held notify e).1, (w.handling held notify e).2.map (renotify f)) := by
  have hsame : ∀ past op, BadgeRule.Reads e op →
      (w.notifying f).withAwards held past op = w.withAwards held past op := by
    intro past op hop
    rw [withAwards_of_reads hop, withAwards_of_reads hop, reply_notifying_of_reads hop]
  have hrun := Script.run_congr (BadgeRule.asks_evaluate e) hsame
  have hresult : (w.notifying f).result (BadgeRule.evaluate e).run = .ok gs := by
    rw [← result_evaluate held, hrun, result_evaluate, h]
  rw [handling_of_ok hresult hd, handling_of_ok h hd, List.map_append, List.map_flatMap,
    map_renotify_eq_self notices_evaluation, evaluation, hrun, ← evaluation]
  exact congrArg (fun t => (_, _ ++ t)) (List.flatMap_congr fun g _ => run_grant_notifying f)

omit h hd in
/-- The awards of a proposal do not depend on the rest of its world, so they are those of any world
in which it is the only proposal. -/
theorem store_handling_of_proposesOnly {g : Grant} {w' : World} (hw' : w.ProposesOnly w' e g) :
    store (w'.handling held notify e).2 = w.awarded held notify e g := by
  rw [store_handling hw'.only (List.nodup_singleton _), List.flatMap_singleton, awarded, awarded,
    store_grant, store_grant, run_award_congr hw'.same fun _ _ => Iff.rfl]

omit h hd

/-- **Every proposal for itself.** Some awards are stored, and an event is handled in a world where
any call can fail. If the event is evaluated and its proposals are for distinct badges, then the
handling does not fail; it stores what each proposal would store if it were the only one, in their
order; and with notifications it tries to tell of each award that it stores, in order, and of
nothing else. What becomes of the notifications makes no difference to anything else. If the
evaluation fails, so does the handling, and nothing is stored or told of. -/
theorem handle_each_alone (w : World) (held : List Grant) (notify : Bool) (e : Event) :
    (∀ gs, w.result (BadgeRule.evaluate e).run = .ok gs → (gs.map Grant.badgeId).Nodup →
      (w.handling held notify e).1 = .ok () ∧
      store (w.handling held notify e).2 = gs.flatMap (w.awarded held notify e) ∧
      (∀ g ∈ gs, ∀ w', w.ProposesOnly w' e g →
        store (w'.handling held notify e).2 = w.awarded held notify e g) ∧
      notices (w.handling held notify e).2 =
        (if notify then store (w.handling held notify e).2 else []).map (noticeOf e) ∧
      ∀ f, (w.notifying f).handling held notify e =
        ((w.handling held notify e).1, (w.handling held notify e).2.map (renotify f))) ∧
    ∀ err, w.result (BadgeRule.evaluate e).run = .error err →
      (w.handling held notify e).1 = .error (.handler "badge" err.message) ∧
      store (w.handling held notify e).2 = [] ∧ notices (w.handling held notify e).2 = [] := by
  refine ⟨fun gs h hd => ⟨?_, store_handling h hd, ?_, notices_handling h hd, ?_⟩, fun err h => ?_⟩
  · rw [handling_of_ok h hd]
  · exact fun g _ w' hw' => store_handling_of_proposesOnly hw'
  · exact handling_notifying h hd
  · rw [handling_eq, h]
    exact ⟨rfl, store_evaluation, notices_evaluation⟩

/-- A world with some badges for the first post. Whether the badge 1 is held is not found out, and
notifications fail. -/
def firstPosts (badges : Except ServiceError (List Badge)) : World where
  answer
    | .badgesOfHandlers _ => badges
    | .getBadge id => .ok (some { Ledger.firstPost with id := id })
    | .hasBadge _ id => if id = 1 then .error (.database .poolTimedOut) else .ok false
    | .addAward _ => .ok 1
    | _ => .error (.internal "")
  accepts _ := true

/-- Two proposals, then the second of them alone, then badges that cannot be listed. -/
theorem handle_each_alone_firstPosts :
    let second := { Ledger.firstPost with id := 2 }
    let both := firstPosts (.ok [Ledger.firstPost, second])
    let alone := firstPosts (.ok [second])
    let unlisted := firstPosts (.error (.database .poolClosed))
    both.result (BadgeRule.evaluate (Ledger.asked "q1")).run =
      .ok [⟨"ann", 1, "q1"⟩, ⟨"ann", 2, "q1"⟩] ∧
    (both.handling [] true (Ledger.asked "q1")).1 = .ok () ∧
    store (both.handling [] true (Ledger.asked "q1")).2 = [⟨"ann", 2, "q1"⟩] ∧
    notices (both.handling [] true (Ledger.asked "q1")).2 = [⟨"ann", "ann", "q1", .badgeAward⟩] ∧
    both.ProposesOnly alone (Ledger.asked "q1") ⟨"ann", 2, "q1"⟩ ∧
    store (alone.handling [] true (Ledger.asked "q1")).2 = [⟨"ann", 2, "q1"⟩] ∧
    (unlisted.handling [] true (Ledger.asked "q1")).1 =
      .error (.handler "badge" (ServiceError.database .poolClosed).message) ∧
    store (unlisted.handling [] true (Ledger.asked "q1")).2 = [] := by
  intro second both alone unlisted
  have hevaluate : both.result (BadgeRule.evaluate (Ledger.asked "q1")).run =
      .ok [⟨"ann", 1, "q1"⟩, ⟨"ann", 2, "q1"⟩] := rfl
  have halone : both.ProposesOnly alone (Ledger.asked "q1") ⟨"ann", 2, "q1"⟩ := by
    refine ⟨rfl, fun c hc => ?_⟩
    cases c with
    | badgesOfHandlers => exact hc.elim
    | _ => rfl
  obtain ⟨hok, hstore, honly, hnotices, -⟩ :=
    (handle_each_alone both [] true (Ledger.asked "q1")).1 _ hevaluate (by decide)
  obtain ⟨hfailed, hnothing, -⟩ := (handle_each_alone unlisted [] true (Ledger.asked "q1")).2 _ rfl
  have hstored : store (both.handling [] true (Ledger.asked "q1")).2 = [⟨"ann", 2, "q1"⟩] := by
    rw [hstore]
    rfl
  have hsecond : both.awarded [] true (Ledger.asked "q1") ⟨"ann", 2, "q1"⟩ =
      [⟨"ann", 2, "q1"⟩] := rfl
  rw [hstored] at hnotices
  exact ⟨hevaluate, hok, hstored, hnotices, halone,
    (honly _ (by simp) alone halone).trans hsecond, hfailed, hnothing⟩

end World

end Forum
