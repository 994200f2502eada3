import Forum.Proofs.Awards
import Forum.Proofs.Proposals
import Forum.Reaction
import Mathlib.Data.List.Nodup

/-!
# Events in any order

What is awarded for an event depends on the awards that are stored, and these depend on the events
before. Yet which badges are held in the end depends neither on the order of the events, nor on how
often one of them is handled.

* `Ledger`, `Ledger.run`: the stored awards and notifications, and a run of a program on them in a
  world that answers all other calls;
* `Place`, `World.places`: what awards take: a badge held once, or a badge under its key;
* `World.Takes`, `World.Due`: the place that an award takes, and the places that are due for an
  event;
* **`grant_cases`**: one award;
* `Ledger.handled`; **`mem_places_handled`**, `nodup_places_handled`, `handled_eq_self`: one event;
* **`events_in_any_order`**: the events of a list.
-/

namespace Forum

/-! ## The ledger -/

/-- The awards that are stored and the notifications that are sent. -/
structure Ledger where
  awards : List Grant
  notices : List NewNotification
deriving DecidableEq

/-- The operations that have nothing to do with the ledger. -/
def Effect.IsElsewhere : Effect → Prop
  | .call (.hasBadge _ _) | .call (.hasAward _ _ _) | .call (.addAward _)
  | .call (.addNotification _) => False
  | _ => True

namespace Ledger

variable (w : World) {α β ε : Type}

/-- The answer to an operation: from the ledger, where no call fails, or else from a world. -/
def perform : (op : Effect) → StateM Ledger op.Answer
  | .call (.hasBadge u b) => fun l => (.ok (l.awards.any (Awarding.holds u b)), l)
  | .call (.hasAward u b k) => fun l => (.ok (decide (⟨u, b, k⟩ ∈ l.awards)), l)
  | .call (.addAward g) => fun l => (.ok l.awards.length, { l with awards := l.awards ++ [g] })
  | .call (.addNotification n) =>
    fun l => (.ok l.notices.length, { l with notices := l.notices ++ [n] })
  | op => fun l => (w.reply op, l)

/-- The run of a program on a ledger. -/
def run (p : Service α) (l : Ledger) : α × Ledger := (p.run (perform w)).run l

variable {w} {l : Ledger}

theorem run_bind (p : Service α) (f : α → Service β) :
    run w (p >>= f) l = run w (f (run w p l).1) (run w p l).2 := by
  rw [run, Program.run_bind]
  rfl

theorem run_bind_except (p : ExceptT ε Service α) (f : α → ExceptT ε Service β) :
    run w (p >>= f).run l =
      match run w p.run l with
      | (.ok a, l') => run w (f a).run l'
      | (.error e, l') => (.error e, l') := by
  rw [ExceptT.run_bind, run_bind]
  cases run w p.run l with
  | mk r l' => cases r <;> rfl

theorem perform_of_isElsewhere {op : Effect} (h : op.IsElsewhere) :
    perform w op = fun l => (w.reply op, l) := by
  cases op with
  | count m => rfl
  | offer e => rfl
  | call c =>
    cases c with
    | hasBadge | hasAward | addAward | addNotification => exact h.elim
    | _ => rfl

theorem run_eq_result {p : Service α} (hp : p.Asks Effect.IsElsewhere) :
    run w p l = (w.result p, l) := by
  induction p with
  | done a => rfl
  | ask op next ih =>
    have step : run w (.ask op next) l = run w (next (w.reply op)) l := by
      rw [run, Program.run, perform_of_isElsewhere hp.1]
      rfl
    rw [step, ih _ (hp.2 _), World.result_ask]

theorem run_evaluate (e : Event) :
    run w (BadgeRule.evaluate e).run l = (w.result (BadgeRule.evaluate e).run, l) := by
  refine run_eq_result ((BadgeRule.asks_evaluate e).mono fun op hop => ?_)
  cases op with
  | count m => trivial
  | offer e => trivial
  | call c =>
    cases c with
    | hasBadge | hasAward | addAward | addNotification => exact hop
    | _ => trivial

end Ledger

/-! ## Places -/

/-- What an award takes: a badge that is held once, or one under a key. -/
structure Place where
  userId : String
  badgeId : Int
  key? : Option String
deriving DecidableEq

/-- The place that an award takes, by how often its badge can be held. -/
def Grant.place (g : Grant) : AwardType → Place
  | .single => ⟨g.userId, g.badgeId, none⟩
  | .multiple => ⟨g.userId, g.badgeId, some g.key⟩

namespace Grant

variable {g g' : Grant}

theorem badgeId_place (t : AwardType) : (g.place t).badgeId = g.badgeId := by
  cases t <;> rfl

theorem place_single_eq : g'.place .single = g.place .single ↔
    Awarding.holds g.userId g.badgeId g' = true := by
  simp [place, Awarding.holds]

theorem place_multiple_eq : g'.place .multiple = g.place .multiple ↔ g' = g := by
  cases g
  cases g'
  simp [place]

end Grant

namespace World

variable (w : World)

/-- The place of a stored award, if its badge is found. -/
def place? (g : Grant) : Option Place :=
  match w.answer (.getBadge g.badgeId) with
  | .ok (some badge) => some (g.place badge.awardType)
  | _ => none

/-- The places that stored awards take. -/
def places (rows : List Grant) : List Place := rows.filterMap w.place?

/-- To make an award of an active badge is to take a place. -/
def Takes (g : Grant) (p : Place) : Prop :=
  ∃ badge, w.answer (.getBadge g.badgeId) = .ok (some badge) ∧ badge.isActive = true ∧
    g.place badge.awardType = p

/-- The awards that are proposed for an event. -/
def proposals (e : Event) : List Grant :=
  match w.result (BadgeRule.evaluate e).run with
  | .ok grants => grants
  | .error _ => []

/-- A place is due for an event if an award is proposed that takes it. -/
def Due (e : Event) (p : Place) : Prop := ∃ g ∈ w.proposals e, w.Takes g p

variable {w} {g g' : Grant} {badge : Badge} {rows : List Grant}

theorem place?_eq_some (h : w.answer (.getBadge g.badgeId) = .ok (some badge)) :
    w.place? g' = some (g.place badge.awardType) ↔
      g'.place badge.awardType = g.place badge.awardType := by
  unfold place?
  constructor
  · intro h'
    split at h'
    case h_2 => cases h'
    case h_1 badge' hfound =>
      have hplace := Option.some.inj h'
      have hid := congrArg Place.badgeId hplace
      rw [Grant.badgeId_place, Grant.badgeId_place] at hid
      rw [hid, h] at hfound
      obtain rfl : badge = badge' := Option.some.inj (Except.ok.inj hfound)
      exact hplace
  · intro hplace
    have hid := congrArg Place.badgeId hplace
    rw [Grant.badgeId_place, Grant.badgeId_place] at hid
    rw [hid, h]
    exact congrArg some hplace

theorem mem_places (h : w.answer (.getBadge g.badgeId) = .ok (some badge)) :
    g.place badge.awardType ∈ w.places rows ↔
      ∃ g' ∈ rows, g'.place badge.awardType = g.place badge.awardType := by
  rw [places, List.mem_filterMap]
  exact exists_congr fun g' => and_congr_right fun _ => place?_eq_some h

theorem places_append (rows rows' : List Grant) :
    w.places (rows ++ rows') = w.places rows ++ w.places rows' := List.filterMap_append

theorem Takes.places_singleton {p : Place} (h : w.Takes g p) : w.places [g] = [p] := by
  obtain ⟨badge, hfound, -, rfl⟩ := h
  exact List.filterMap_cons_some ((place?_eq_some hfound).mpr rfl)

theorem Takes.unique {p p' : Place} (h : w.Takes g p) (h' : w.Takes g p') : p = p' := by
  obtain ⟨badge, hfound, -, rfl⟩ := h
  obtain ⟨badge', hfound', -, rfl⟩ := h'
  rw [hfound] at hfound'
  rw [Option.some.inj (Except.ok.inj hfound')]

end World

/-! ## One award -/

namespace Ledger

variable {w : World} {l : Ledger}

theorem run_isDuplicate {g : Grant} {badge : Badge}
    (h : w.answer (.getBadge g.badgeId) = .ok (some badge)) :
    run w (Awarding.isDuplicate badge g false).run l =
      (.ok (decide (g.place badge.awardType ∈ w.places l.awards)), l) := by
  have hmem : g.place badge.awardType ∈ w.places l.awards ↔
      ∃ g' ∈ l.awards, g'.place badge.awardType = g.place badge.awardType := World.mem_places h
  unfold Awarding.isDuplicate
  cases htype : badge.awardType with
  | single =>
    rw [htype] at hmem
    have hany : l.awards.any (Awarding.holds g.userId g.badgeId) =
        decide (g.place .single ∈ w.places l.awards) := by
      rw [Bool.eq_iff_iff, List.any_eq_true, decide_eq_true_iff, hmem]
      exact exists_congr fun g' => and_congr_right fun _ => Grant.place_single_eq.symm
    rw [← hany]
    rfl
  | multiple =>
    rw [htype] at hmem
    have hiff : g ∈ l.awards ↔ g.place .multiple ∈ w.places l.awards := by
      rw [hmem]
      simp [Grant.place_multiple_eq]
    rw [← decide_eq_decide.mpr hiff]
    rfl

theorem run_award_of_not_takes {g : Grant} (h : ∀ p, ¬ w.Takes g p) :
    ∃ r, run w (Awarding.award g false).run l = (r, l) ∧ r ≠ .ok true := by
  have hcall : run w (Service.call (.getBadge g.badgeId)).run l =
      (w.answer (.getBadge g.badgeId), l) := rfl
  rw [Awarding.award, run_bind_except, hcall]
  cases hfound : w.answer (.getBadge g.badgeId) with
  | error err => exact ⟨_, rfl, nofun⟩
  | ok found =>
    cases found with
    | none => exact ⟨_, rfl, nofun⟩
    | some badge =>
      have hactive : badge.isActive = false :=
        Bool.eq_false_iff.mpr fun hactive => h _ ⟨badge, hfound, hactive, rfl⟩
      simp only [hactive]
      exact ⟨_, rfl, nofun⟩

theorem run_award_of_takes {g : Grant} {p : Place} (h : w.Takes g p) :
    run w (Awarding.award g false).run l =
      if p ∈ w.places l.awards then (.ok false, l)
      else (.ok true, { l with awards := l.awards ++ [g] }) := by
  obtain ⟨badge, hfound, hactive, rfl⟩ := h
  have hcall : run w (Service.call (.getBadge g.badgeId)).run l =
      (w.answer (.getBadge g.badgeId), l) := rfl
  rw [Awarding.award, run_bind_except, hcall, hfound]
  simp only [hactive, if_true]
  rw [run_bind_except, run_isDuplicate hfound]
  by_cases htaken : g.place badge.awardType ∈ w.places l.awards
  · simp only [htaken, decide_true, if_true]
    rfl
  · simp only [htaken, decide_false, if_false]
    rfl

variable (notify : Bool) (e : Event) (g : Grant)

/-- The ledger after an award is made and, if this is wanted, told of. -/
def granted (l : Ledger) : Ledger where
  awards := l.awards ++ [g]
  notices := if notify then l.notices ++ [⟨g.userId, e.userId, g.key, .badgeAward⟩] else l.notices

/-- **One award** is made, and told of, if it takes a place that is not taken. Otherwise nothing
happens. -/
theorem grant_cases :
    (∃ p, w.Takes g p ∧ p ∉ w.places l.awards ∧
      (run w (Reactor.grant notify e g) l).2 = granted notify e g l) ∨
    (∀ p, w.Takes g p → p ∈ w.places l.awards) ∧ (run w (Reactor.grant notify e g) l).2 = l := by
  rw [Reactor.grant, run_bind]
  by_cases htakes : ∃ p, w.Takes g p
  · obtain ⟨p, hp⟩ := htakes
    rw [run_award_of_takes hp]
    by_cases htaken : p ∈ w.places l.awards
    · refine .inr ⟨fun p' hp' => hp.unique hp' ▸ htaken, ?_⟩
      rw [if_pos htaken]
      rfl
    · refine .inl ⟨p, hp, htaken, ?_⟩
      rw [if_neg htaken]
      cases notify <;> rfl
  · obtain ⟨r, hr, hno⟩ := run_award_of_not_takes (l := l) fun p hp => htakes ⟨p, hp⟩
    refine .inr ⟨fun p hp => absurd ⟨p, hp⟩ htakes, ?_⟩
    rw [hr]
    dsimp only
    split
    · exact absurd rfl hno
    · rfl

/-! ## Awards in turn -/

variable (w) {g} {p : Place} {gs : List Grant}

/-- The ledger after awards in turn. -/
def grants (gs : List Grant) (l : Ledger) : Ledger :=
  gs.foldl (fun l g => (run w (Reactor.grant notify e g) l).2) l

variable {w notify e}

theorem places_granted (hp : w.Takes g p) :
    w.places (granted notify e g l).awards = w.places l.awards ++ [p] := by
  rw [granted, World.places_append, hp.places_singleton]

theorem mem_places_grant {q : Place} :
    q ∈ w.places (run w (Reactor.grant notify e g) l).2.awards ↔
      q ∈ w.places l.awards ∨ w.Takes g q := by
  rcases grant_cases (w := w) (l := l) notify e g with ⟨p, hp, -, hl⟩ | ⟨htaken, hl⟩ <;> rw [hl]
  · rw [places_granted hp, List.mem_append, List.mem_singleton]
    refine or_congr_right ⟨?_, fun hq => hq.unique hp⟩
    rintro rfl
    exact hp
  · exact ⟨.inl, fun hq => hq.elim id (htaken q)⟩

/-- **The places after awards in turn**. -/
theorem mem_places_grants {q : Place} :
    q ∈ w.places (grants w notify e gs l).awards ↔
      q ∈ w.places l.awards ∨ ∃ g ∈ gs, w.Takes g q := by
  induction gs generalizing l with
  | nil => simp [grants]
  | cons g gs ih =>
    rw [grants, List.foldl_cons, ← grants, ih, mem_places_grant, or_assoc, List.exists_mem_cons_iff]

theorem nodup_places_grant (hl : (w.places l.awards).Nodup) :
    (w.places (run w (Reactor.grant notify e g) l).2.awards).Nodup := by
  rcases grant_cases (w := w) (l := l) notify e g with ⟨p, hp, hfree, hg⟩ | ⟨-, hg⟩ <;> rw [hg]
  · rw [places_granted hp, ← List.concat_eq_append]
    exact List.Nodup.concat hfree hl
  · exact hl

theorem nodup_places_grants (hl : (w.places l.awards).Nodup) :
    (w.places (grants w notify e gs l).awards).Nodup := by
  induction gs generalizing l with
  | nil => exact hl
  | cons g gs ih => exact ih (nodup_places_grant hl)

theorem grants_eq_self (h : ∀ g ∈ gs, ∀ p, w.Takes g p → p ∈ w.places l.awards) :
    grants w notify e gs l = l := by
  induction gs with
  | nil => rfl
  | cons g gs ih =>
    obtain ⟨hg, hgs⟩ := List.forall_mem_cons.mp h
    rcases grant_cases (w := w) (l := l) notify e g with ⟨p, hp, hfree, -⟩ | ⟨-, hl⟩
    · exact absurd (hg p hp) hfree
    · rw [grants, List.foldl_cons, hl]
      exact ih hgs

/-! ## One event -/

variable (w notify e) in
/-- The ledger after an event has been handled. -/
def handled (l : Ledger) : Ledger := (run w ((Reactor.badges notify).handle e).run l).2

theorem run_forM_grant (gs : List Grant) :
    (run w (gs.forM fun g => liftM (Reactor.grant notify e g) :
      ExceptT SystemError Service Unit).run l).2 = grants w notify e gs l := by
  induction gs generalizing l with
  | nil => rfl
  | cons g gs ih =>
    have hlift : run w (liftM (Reactor.grant notify e g) : ExceptT SystemError Service Unit).run l =
        (.ok (), (run w (Reactor.grant notify e g) l).2) := by
      change run w (ExceptT.lift (Reactor.grant notify e g)).run l = _
      rw [ExceptT.run_lift]
      exact run_bind _ _
    change (run w (liftM (Reactor.grant notify e g) >>= fun _ => gs.forM fun g =>
      liftM (Reactor.grant notify e g) : ExceptT SystemError Service Unit).run l).2 = _
    rw [run_bind_except, hlift]
    exact ih

theorem handled_eq (l : Ledger) :
    handled w notify e l = grants w notify e (w.proposals e) l := by
  have hlift : run w (liftM (BadgeRule.evaluate e).run :
      ExceptT SystemError Service (Except ServiceError (List Grant))).run l =
      (.ok (w.result (BadgeRule.evaluate e).run), l) := by
    change run w (ExceptT.lift (BadgeRule.evaluate e).run).run l = _
    rw [ExceptT.run_lift]
    refine (run_bind _ _).trans ?_
    rw [run_evaluate]
    rfl
  rw [handled, Reactor.handle, run_bind_except, hlift, World.proposals]
  cases w.result (BadgeRule.evaluate e).run with
  | error err => rfl
  | ok gs => exact run_forM_grant gs

/-- **The places after one event**: those before, and those that are due. -/
theorem mem_places_handled {q : Place} :
    q ∈ w.places (handled w notify e l).awards ↔ q ∈ w.places l.awards ∨ w.Due e q := by
  rw [handled_eq, mem_places_grants, World.Due]

theorem nodup_places_handled (hl : (w.places l.awards).Nodup) :
    (w.places (handled w notify e l).awards).Nodup := by
  rw [handled_eq]
  exact nodup_places_grants hl

theorem handled_eq_self (h : ∀ p, w.Due e p → p ∈ w.places l.awards) :
    handled w notify e l = l := by
  rw [handled_eq]
  exact grants_eq_self fun g hg p hp => h p ⟨g, hg, hp⟩

/-! ## Events in turn -/

variable {es es' : List Event}

variable (w notify) in
/-- The ledger after events have been handled one after another. -/
def afterEvents (es : List Event) (l : Ledger) : Ledger :=
  es.foldl (fun l e => handled w notify e l) l

/-- **The places after events in turn**: those before, and those that are due for one of them. -/
theorem mem_places_afterEvents {q : Place} :
    q ∈ w.places (afterEvents w notify es l).awards ↔
      q ∈ w.places l.awards ∨ ∃ e ∈ es, w.Due e q := by
  induction es generalizing l with
  | nil => simp [afterEvents]
  | cons e es ih =>
    rw [afterEvents, List.foldl_cons, ← afterEvents, ih, mem_places_handled, or_assoc,
      List.exists_mem_cons_iff]

theorem nodup_places_afterEvents (hl : (w.places l.awards).Nodup) :
    (w.places (afterEvents w notify es l).awards).Nodup := by
  induction es generalizing l with
  | nil => exact hl
  | cons e es ih => exact ih (nodup_places_handled hl)

/-- **Events in any order.** In a world that answers what does not depend on the awards, two lists
of the same events, however ordered and however often they are repeated, are handled from the same
ledger. Then the same places are taken: those taken before, and those that are due for one of the
events. No place is taken twice unless it was so before, and to handle one of the events again makes
no award and sends no notification. -/
theorem events_in_any_order (w : World) (notify : Bool) (l : Ledger) (h : ∀ e, e ∈ es ↔ e ∈ es') :
    (∀ p, p ∈ w.places (afterEvents w notify es l).awards ↔
      p ∈ w.places (afterEvents w notify es' l).awards) ∧
    (∀ p, p ∈ w.places (afterEvents w notify es l).awards ↔
      p ∈ w.places l.awards ∨ ∃ e ∈ es, w.Due e p) ∧
    ((w.places l.awards).Nodup → (w.places (afterEvents w notify es l).awards).Nodup) ∧
    ∀ e ∈ es, handled w notify e (afterEvents w notify es l) = afterEvents w notify es l := by
  refine ⟨fun p => ?_, fun p => mem_places_afterEvents, nodup_places_afterEvents, fun e he => ?_⟩
  · rw [mem_places_afterEvents, mem_places_afterEvents]
    exact or_congr_right (exists_congr fun e => and_congr_left fun _ => h e)
  · exact handled_eq_self fun p hp => mem_places_afterEvents.mpr (.inr ⟨e, he, hp⟩)

/-- A badge for the first post, which is held once. -/
def firstPost : Badge :=
  { Awarding.niceAnswer with
    id := 1, name := "First Post", awardType := .single, handler := "FirstPost", param := .null }

/-- A world where this is the only badge. -/
def onlyFirstPost : World where
  answer
    | .badgesOfHandlers _ => .ok [firstPost]
    | .getBadge id => .ok (if id = 1 then some firstPost else none)
    | _ => .error (.internal "")
  accepts _ := true

/-- Ann has asked a question. -/
def asked (question : String) : Event :=
  { type := .questionCreate, userId := "ann" : Event }.withQuestion question (some "ann")

/-- Ann has asked two questions. Whichever of them is handled first, and whether or not it is handled
again, she is awarded the badge and told of it once, for the question that came first. -/
theorem events_in_any_order_twoQuestions :
    (∀ e, e ∈ [asked "q1", asked "q2"] ↔ e ∈ [asked "q2", asked "q1", asked "q2"]) ∧
    afterEvents onlyFirstPost true [asked "q1", asked "q2"] ⟨[], []⟩ =
      ⟨[⟨"ann", 1, "q1"⟩], [⟨"ann", "ann", "q1", .badgeAward⟩]⟩ ∧
    afterEvents onlyFirstPost true [asked "q2", asked "q1", asked "q2"] ⟨[], []⟩ =
      ⟨[⟨"ann", 1, "q2"⟩], [⟨"ann", "ann", "q2", .badgeAward⟩]⟩ ∧
    ∀ p, p ∈ onlyFirstPost.places
        (afterEvents onlyFirstPost true [asked "q1", asked "q2"] ⟨[], []⟩).awards ↔
      p ∈ onlyFirstPost.places
        (afterEvents onlyFirstPost true [asked "q2", asked "q1", asked "q2"] ⟨[], []⟩).awards := by
  have hsame : ∀ e, e ∈ [asked "q1", asked "q2"] ↔
      e ∈ [asked "q2", asked "q1", asked "q2"] := by
    intro e
    simp only [List.mem_cons, List.not_mem_nil, or_false]
    constructor
    · rintro (h | h)
      · exact .inr (.inl h)
      · exact .inl h
    · rintro (h | h | h)
      · exact .inr h
      · exact .inl h
      · exact .inr h
  exact ⟨hsame, rfl, rfl, (events_in_any_order onlyFirstPost true ⟨[], []⟩ hsame).1⟩

end Ledger

end Forum
