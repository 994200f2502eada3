import Forum.Service

/-!
# Awarding badges

* `Awarding.isDuplicate`: a badge held once is never awarded again; a badge held many times is not
  awarded again under the same key, unless forced;
* `Awarding.award`: whether an award was stored.
-/

namespace Forum.Awarding

/-- Would the award repeat one that is stored? -/
def isDuplicate (badge : Badge) (g : Grant) (force : Bool) : Fallible Bool :=
  match badge.awardType, force with
  | .single, _ => Service.call (.hasBadge g.userId g.badgeId)
  | .multiple, true => return false
  | .multiple, false => Service.call (.hasAward g.userId g.badgeId g.key)

/-- Store an award of an active badge, unless it is a duplicate. -/
def award (g : Grant) (force : Bool) : Fallible Bool := do
  match ← Service.call (.getBadge g.badgeId) with
  | none => throw (.badgeNotFound g.badgeId)
  | some badge =>
    let skip ← if badge.isActive then isDuplicate badge g force else pure true
    if skip then
      Service.count (.badgeAward badge.handler .skipped)
      return false
    else
      let _ ← Service.call (.addAward g)
      Service.count (.badgeAward badge.handler .awarded)
      return true

end Forum.Awarding
