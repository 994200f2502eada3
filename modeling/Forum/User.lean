import Forum.Json.Decoder

/-!
# Users

* `UserStatus`: a user is never removed, only marked;
* `User`: what a permission depends on.
-/

namespace Forum

/-- The status of an account. -/
inductive UserStatus where
  | normal
  | suspended
  | deleted
  | inactive
deriving DecidableEq, Repr

namespace UserStatus

def all : List UserStatus := [normal, suspended, deleted, inactive]

def name : UserStatus → String
  | normal => "normal"
  | suspended => "suspended"
  | deleted => "deleted"
  | inactive => "inactive"

def ofName? (s : String) : Option UserStatus := all.find? (·.name = s)

def decoder : Json.Decoder UserStatus := Json.Decoder.choice ofName?

end UserStatus

/-- A user with the reputation, `rank`, that thresholds are compared with. -/
structure User where
  id : String
  username : String
  displayName : String
  rank : Int
  isAdmin : Bool
  status : UserStatus
deriving DecidableEq, Repr

namespace User

def toJson (u : User) : Json :=
  .object [("id", .text u.id), ("username", .text u.username), ("displayName", .text u.displayName),
    ("rank", .int u.rank), ("isAdmin", .bool u.isAdmin), ("status", .text u.status.name)]

open Json Decoder in
def record : Record User :=
  (Record.ofFunction User.mk).required "id" string |>.required "username" string
    |>.required "displayName" string |>.required "rank" (int .int64)
    |>.required "isAdmin" bool |>.required "status" UserStatus.decoder

end User

end Forum
