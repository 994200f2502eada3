import Forum.Badge.Awarding
import Forum.Badge.Rule

/-!
# Reactions to events

Those who react to events are independent of one another: the failure of one is counted and stops
nothing else.

* `Reactor`, `Reactor.supports`: badges, with or without notifications, and notifications;
* `Reactor.handle`: what one of them does about an event;
* `Reactor.dispatch`: all of them in order.
-/

namespace Forum

/-- Those who react to events. -/
inductive Reactor where
  | badges (notify : Bool)
  | notifications
deriving DecidableEq, Repr

namespace Reactor

/-- Those who react to the events of the service. -/
def all : List Reactor := [badges true, notifications]

def name : Reactor → String
  | badges _ => "badge"
  | notifications => "notification"

/-- The types of events that one reacts to. -/
def supports : Reactor → EventType → Bool
  | badges _, t => !(BadgeRule.ofEvent t).isEmpty
  | notifications, t => NewNotification.concerns t

/-- Make one award and, if it was stored, tell the awardee. What fails here is passed over. -/
def grant (notify : Bool) (e : Event) (g : Grant) : Service Unit := do
  match ← (Awarding.award g false).run with
  | .ok true =>
    if notify then
      let _ ← Service.attempt (.addNotification ⟨g.userId, e.userId, g.key, .badgeAward⟩)
  | _ => return ()

/-- What one does about an event. -/
def handle (r : Reactor) (e : Event) : ExceptT SystemError Service Unit :=
  match r with
  | badges notify => do
    match ← (BadgeRule.evaluate e).run with
    | .ok grants => grants.forM fun g => grant notify e g
    | .error err => throw (.handler r.name err.message)
  | notifications => do
    match NewNotification.ofEvent? e with
    | none => return ()
    | some n =>
      match ← Service.attempt (.addNotification n) with
      | .ok _ => return ()
      | .error err => throw (.handler r.name err.message)

/-- What one does about an event, its failure counted. -/
def handleCounted (r : Reactor) (e : Event) : Service Unit := do
  match ← (r.handle e).run with
  | .ok () => return ()
  | .error _ => Service.count (.handlerFailure r.name)

/-- All reactions to an event, in order. -/
def dispatch (rs : List Reactor) (e : Event) : Service Unit :=
  rs.forM fun r => if r.supports e.type then r.handleCounted e else return ()

end Reactor

end Forum
