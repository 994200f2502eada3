import Forum.Json.Decoder

/-!
# Objects

Questions, answers, comments, tags and users are objects. The id of an object is the digit `1`, the
code of its kind in three digits, and a sequence number in 13 digits or more.

* `ObjectKind`, `ObjectKind.objectId`, `ObjectKind.ofObjectId?`;
* `ObjectInfo`: whose an object is, and what it belongs to.
-/

namespace Forum

/-- The kinds of objects. -/
inductive ObjectKind where
  | question
  | answer
  | tag
  | user
  | comment
deriving DecidableEq, Repr

namespace ObjectKind

def all : List ObjectKind := [question, answer, tag, user, comment]

/-- The code of a kind in object ids. -/
def code : ObjectKind → Nat
  | question => 1
  | answer => 2
  | tag => 3
  | user => 4
  | comment => 5

def name : ObjectKind → String
  | question => "question"
  | answer => "answer"
  | tag => "tag"
  | user => "user"
  | comment => "comment"

/-- The kind of a code. -/
def ofCode? (n : Nat) : Option ObjectKind := all.find? (·.code = n)

/-- The kind of a name. -/
def ofName? (s : String) : Option ObjectKind := all.find? (·.name = s)

/-- The id of an object. -/
def objectId (k : ObjectKind) (seq : Int) : String :=
  String.ofList ('1' :: (Text.padded 3 k.code ++ Text.padded 13 seq))

/-- The kind that an object id tells: after the digit `1` come three digits of a code and at least
one more digit. -/
def ofObjectId? (id : String) : Option ObjectKind :=
  match id.toList with
  | '1' :: a :: b :: c :: rest =>
    if !rest.isEmpty && (a :: b :: c :: rest).all Char.isDigit then
      ofCode? (Text.digitsValue [a, b, c])
    else none
  | _ => none

def decoder : Json.Decoder ObjectKind := Json.Decoder.choice ofName?

end ObjectKind

/-- Whose an object is, and the objects that it belongs to. A tag has no creator: the empty text. -/
structure ObjectInfo where
  objectId : String
  kind : ObjectKind
  creator : String
  questionId : Option String := none
  answerId : Option String := none
  commentId : Option String := none
  tagId : Option String := none
deriving DecidableEq, Repr

namespace ObjectInfo

/-- A user other than the empty one created the object. -/
def isCreatedBy (o : ObjectInfo) (user : String) : Bool := user ≠ "" ∧ o.creator = user

def toJson (o : ObjectInfo) : Json :=
  .object [("objectId", .text o.objectId), ("objectType", .text o.kind.name),
    ("objectCreatorUserId", .text o.creator), ("questionId", .ofText? o.questionId),
    ("answerId", .ofText? o.answerId), ("commentId", .ofText? o.commentId),
    ("tagId", .ofText? o.tagId)]

open Json Decoder in
def record : Record ObjectInfo :=
  (Record.ofFunction ObjectInfo.mk).required "objectId" string
    |>.required "objectType" ObjectKind.decoder
    |>.required "objectCreatorUserId" string
    |>.optional "questionId" string |>.optional "answerId" string
    |>.optional "commentId" string |>.optional "tagId" string

end ObjectInfo

end Forum
