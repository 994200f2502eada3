import Forum.Instant

/-!
# Badges

* `Badge`, with its level, its award type and its status;
* `Badge.amount?`: the threshold among the parameters of its rule;
* `Grant`, `Award`: an award proposed, and an award stored.
-/

namespace Forum

/-- How rare a badge is. -/
inductive BadgeLevel where
  | bronze
  | silver
  | gold
deriving DecidableEq, Repr

namespace BadgeLevel

def all : List BadgeLevel := [bronze, silver, gold]

def name : BadgeLevel → String
  | bronze => "bronze"
  | silver => "silver"
  | gold => "gold"

def ofName? (s : String) : Option BadgeLevel := all.find? (·.name = s)

def decoder : Json.Decoder BadgeLevel := Json.Decoder.choice ofName?

end BadgeLevel

/-- How often a user can hold a badge: once, or once for every key. -/
inductive AwardType where
  | single
  | multiple
deriving DecidableEq, Repr

namespace AwardType

def all : List AwardType := [single, multiple]

def name : AwardType → String
  | single => "single"
  | multiple => "multiple"

def ofName? (s : String) : Option AwardType := all.find? (·.name = s)

def decoder : Json.Decoder AwardType := Json.Decoder.choice ofName?

end AwardType

/-- Whether a badge is awarded at all. -/
inductive BadgeStatus where
  | active
  | inactive
deriving DecidableEq, Repr

namespace BadgeStatus

def all : List BadgeStatus := [active, inactive]

def name : BadgeStatus → String
  | active => "active"
  | inactive => "inactive"

def ofName? (s : String) : Option BadgeStatus := all.find? (·.name = s)

def decoder : Json.Decoder BadgeStatus := Json.Decoder.choice ofName?

end BadgeStatus

/-- A badge; `handler` names its rule, `param` holds the parameters of the rule. -/
structure Badge where
  id : Int
  name : String
  icon : Option String
  description : Option String
  level : BadgeLevel
  awardType : AwardType
  handler : String
  param : Json
  status : BadgeStatus
  awardCount : Int
  createdAt : Instant
  updatedAt : Instant

namespace Badge

def isActive (b : Badge) : Bool := b.status = .active

/-- The threshold of a rule: an integer of 64 bits, or a text that spells one. -/
def amountOf? (param : Json) : Option Int :=
  match param.get? "amount" with
  | some (.number (.int n)) => Text.Width.int64.fit n
  | some (.text s) => Text.Width.int64.read (Text.trim s.toList)
  | _ => none

/-- The threshold of the badge's rule. -/
def amount? (b : Badge) : Option Int := amountOf? b.param

def toJson (b : Badge) : Json :=
  .object [("id", .int b.id), ("name", .text b.name), ("icon", .ofText? b.icon),
    ("description", .ofText? b.description), ("level", .text b.level.name),
    ("awardType", .text b.awardType.name), ("handler", .text b.handler), ("param", b.param),
    ("status", .text b.status.name), ("awardCount", .int b.awardCount),
    ("createdAt", b.createdAt.toJson), ("updatedAt", b.updatedAt.toJson)]

open Json Decoder in
def record : Record Badge :=
  (Record.ofFunction Badge.mk).required "id" (int .int64) |>.required "name" string
    |>.optional "icon" string |>.optional "description" string
    |>.required "level" BadgeLevel.decoder |>.required "awardType" AwardType.decoder
    |>.required "handler" string |>.required "param" any
    |>.required "status" BadgeStatus.decoder |>.required "awardCount" (int .int64)
    |>.required "createdAt" Instant.decoder |>.required "updatedAt" Instant.decoder

end Badge

/-- An award to be made: to whom, of which badge, and under which key. The key tells one cause of an
award from another. -/
structure Grant where
  userId : String
  badgeId : Int
  key : String
deriving DecidableEq, Repr

namespace Grant

def toJson (g : Grant) : Json :=
  .object [("userId", .text g.userId), ("badgeId", .int g.badgeId), ("awardKey", .text g.key)]

open Json Decoder in
def record : Record Grant :=
  (Record.ofFunction Grant.mk).required "userId" string |>.required "badgeId" (int .int64)
    |>.required "awardKey" string

end Grant

/-- A stored award. -/
structure Award where
  id : Int
  grant : Grant
  createdAt : Instant
deriving DecidableEq, Repr

namespace Award

def toJson (a : Award) : Json :=
  .object (a.grant.toJson.entries ++ [("id", .int a.id), ("createdAt", a.createdAt.toJson)])

open Json Decoder in
def record : Record Award :=
  (Record.ofFunction fun id u b k c => Award.mk id ⟨u, b, k⟩ c)
    |>.required "id" (int .int64) |>.required "userId" string
    |>.required "badgeId" (int .int64) |>.required "awardKey" string
    |>.required "createdAt" Instant.decoder

end Award

end Forum
