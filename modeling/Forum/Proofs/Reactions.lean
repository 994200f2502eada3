import Forum.Proofs.Transcript
import Forum.Reaction

/-!
# Reactors and the events they support

Which types of events a reactor supports is written apart from what it does about an event. The two
agree: about an event of any other type a reactor does nothing at all.

* `Reactor.dispatchToAll`: all reactions to an event, of reactors that are not asked what they
  support;
* **`supports_iff`**: the types that are supported are those with an event that is reacted to;
* **`dispatch_eq_dispatchToAll`**: one event;
* **`run_dispatchToAll`**: the events of a list, whatever the repositories answer.
-/

namespace Forum

/-! ## What an event leads to -/

theorem BadgeRule.evaluate_of_ofEvent {e : Event} (h : ofEvent e.type = []) :
    (evaluate e).run = pure (.ok []) := by
  unfold evaluate
  rw [h]
  rfl

theorem NewNotification.subject?_of_not_concerns {e : Event} (h : concerns e.type = false) :
    subject? e = none := by
  unfold concerns at h
  unfold subject?
  split at h
  · cases h
  · cases h
  · cases h
  · rfl

theorem NewNotification.ofEvent?_of_not_concerns {e : Event} (h : concerns e.type = false) :
    ofEvent? e = none := by
  rw [ofEvent?, subject?_of_not_concerns h, Option.bind_none]

/-- An event about which somebody can be told, of every type that concerns somebody. -/
def NewNotification.sample (t : EventType) : Event :=
  { type := t, userId := "a", questionUserId := some "b", answerId := some "1",
    answerUserId := some "b", commentId := some "2" }

theorem NewNotification.ofEvent?_sample {t : EventType} (h : concerns t = true) :
    ∃ n, ofEvent? (sample t) = some n := by
  unfold concerns at h
  split at h
  · exact ⟨⟨"b", "a", "1", .answerTheQuestion⟩, by decide⟩
  · exact ⟨⟨"b", "a", "2", .commentTheObject⟩, by decide⟩
  · exact ⟨⟨"b", "a", "1", .acceptAnswer⟩, by decide⟩
  · cases h

namespace Reactor

variable {r : Reactor} {e : Event}

/-! ## One event -/

theorem supports_badges_eq_false {notify : Bool} {t : EventType} :
    (badges notify).supports t = false ↔ BadgeRule.ofEvent t = [] := by
  simp [supports]

/-- **An event of another type is not reacted to**: nothing is asked, and nothing fails. -/
theorem handleCounted_of_not_supports (h : r.supports e.type = false) :
    r.handleCounted e = pure () := by
  have hrun : (r.handle e).run = pure (.ok ()) := by
    cases r with
    | badges notify =>
      unfold handle
      rw [BadgeRule.evaluate_of_ofEvent (supports_badges_eq_false.mp h)]
      rfl
    | notifications =>
      unfold handle
      rw [NewNotification.ofEvent?_of_not_concerns h]
      rfl
  rw [handleCounted, hrun]
  rfl

/-- **The types that are supported** are those with an event that is reacted to. -/
theorem supports_iff {t : EventType} :
    r.supports t = true ↔ ∃ e : Event, e.type = t ∧ r.handleCounted e ≠ pure () := by
  constructor
  · intro h
    cases r with
    | badges notify =>
      refine ⟨{ type := t, userId := "" }, rfl, ?_⟩
      unfold handleCounted handle BadgeRule.evaluate
      dsimp only
      cases hrules : BadgeRule.ofEvent t with
      | nil =>
        rw [supports_badges_eq_false.mpr hrules] at h
        cases h
      | cons rule rules => exact nofun
    | notifications =>
      obtain ⟨n, hn⟩ := NewNotification.ofEvent?_sample h
      refine ⟨NewNotification.sample t, rfl, ?_⟩
      unfold handleCounted handle
      rw [hn]
      exact nofun
  · rintro ⟨e, rfl, hne⟩
    cases h : r.supports e.type with
    | true => rfl
    | false => exact absurd (handleCounted_of_not_supports h) hne

/-- All reactions to an event, in order, of reactors that are not asked what they support. -/
def dispatchToAll (rs : List Reactor) (e : Event) : Service Unit := rs.forM (·.handleCounted e)

/-- **One event.** To ask what a reactor supports makes no difference. -/
theorem dispatch_eq_dispatchToAll (rs : List Reactor) (e : Event) :
    dispatch rs e = dispatchToAll rs e := by
  unfold dispatch dispatchToAll
  congr 1
  funext r
  cases h : r.supports e.type with
  | true => rfl
  | false => exact (handleCounted_of_not_supports h).symm

/-! ## The events of a list -/

/-- **To ask what reactors support makes no difference**, whatever the repositories answer and
however that depends on what was asked before: the same operations come in the same order with the
same answers, and so the same calls, awards, notifications and counted failures. -/
theorem run_dispatchToAll (rs : List Reactor) (es : List Event) (s : Script Effect.Answer) :
    s.run (es.forM (dispatchToAll rs)) = s.run (es.forM (dispatch rs)) := by
  induction es generalizing s with
  | nil => rfl
  | cons e es ih =>
    change s.run (dispatchToAll rs e >>= fun _ => es.forM (dispatchToAll rs)) =
      s.run (dispatch rs e >>= fun _ => es.forM (dispatch rs))
    rw [Script.run_bind, Script.run_bind, ← dispatch_eq_dispatchToAll, ih]

end Reactor

end Forum
