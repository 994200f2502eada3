import Forum.Service

/-!
# Permissions by reputation

An administrator may do anything, the creator of an object anything to it, and anybody else what
their reputation suffices for. An action without a threshold is denied.

* `PermissionCheck`, `reaches`;
* `Rank.owns`: a failing look-up of an object makes nobody its owner;
* `Rank.evaluate`, `Rank.checkAll`, `Rank.check`: one look-up of the user and of the object for any
  number of actions;
* `Rank.checkVote`: nobody votes on what they created.
-/

namespace Forum

/-- The verdict on an action, and the threshold that it rests on, if it rests on one. -/
structure PermissionCheck where
  action : Action
  allowed : Bool
  requiredRank : Option Int
deriving DecidableEq, Repr

def PermissionCheck.toJson (c : PermissionCheck) : Json :=
  .object [("action", .text c.action.name), ("allowed", .bool c.allowed),
    ("requiredRank", (c.requiredRank.map .int).getD .null)]

/-- Does a reputation reach a threshold? -/
def reaches (rank : Int) : Option Int → Bool
  | some required => required ≤ rank
  | none => false

namespace Rank

/-- The threshold of an action. -/
def threshold (a : Action) : Fallible (Option Int) := Service.call (.getInt a.settingKey)

/-- Did the user create the object? Without a user or an object nothing is looked up. -/
def owns (user object : String) : Service Bool :=
  if user = "" ∨ object = "" then return false
  else do
    match ← Service.attempt (.objectInfo object) with
    | .ok info => return info.isCreatedBy user
    | .error _ => return false

/-- The verdict by reputation alone. -/
def byRank (rank : Int) (a : Action) : Fallible PermissionCheck := do
  let required ← threshold a
  return ⟨a, reaches rank required, required⟩

/-- The same verdict on every action. -/
def uniform (actions : List Action) (allowed : Bool) : List PermissionCheck :=
  actions.map (⟨·, allowed, none⟩)

/-- The verdicts on some actions of a user on an object; the empty text is no user and no object. -/
def evaluate (user : String) (actions : List Action) (object : String) :
    Fallible (List PermissionCheck) := do
  if user = "" then return uniform actions false
  match ← Service.call (.userById user) with
  | none => return uniform actions false
  | some u =>
    if u.isAdmin then return uniform actions true
    if object ≠ "" then
      if ← owns user object then return uniform actions true
    actions.mapM (byRank u.rank)

/-- The verdicts, counted. -/
def checkAll (user : String) (actions : List Action) (object : String) :
    Fallible (List PermissionCheck) := do
  let checks ← evaluate user actions object
  checks.forM fun c => Service.count (.permissionCheck c.action c.allowed)
  return checks

/-- The verdicts without thresholds. -/
def checkEach (user : String) (actions : List Action) (object : String) : Fallible (List Bool) := do
  return (← checkAll user actions object).map (·.allowed)

/-- The verdict on one action. -/
def check (user : String) (action : Action) (object : String) : Fallible Bool := do
  return (← checkAll user [action] object).head?.any (·.allowed)

/-- The verdict by reputation alone, as yes or no. -/
def checkRank (rank : Int) (action : Action) : Fallible Bool := do
  return reaches rank (← threshold action)

/-- May the user vote on the object? -/
def checkVote (user : String) (object : ObjectInfo) (up : Bool) : Fallible Bool := do
  if user = "" ∨ object.isCreatedBy user then return false
  match Action.vote? object.kind up with
  | none => throw (.validation (object.kind.name ++ " 不支持投票"))
  | some action =>
    match ← Service.call (.userById user) with
    | none => return false
    | some u =>
      let allowed ← if u.isAdmin then pure true else checkRank u.rank action
      Service.count (.permissionCheck action allowed)
      return allowed

end Rank

end Forum
