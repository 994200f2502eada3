import Forum.Storage.Content
import Forum.Storage.Setting

/-!
# The repositories over the database

* `Storage.objectInfo`: whose an object is, by the kind that its id tells;
* `Storage.addAward`, `Storage.found`: awards and searches, with `Storage.pageStart`: where a page
  begins;
* `Storage.answer`: the program of each repository call.
-/

namespace Forum

open Sql

/-- A user in a row. -/
def User.ofRow (r : Row) : Except StorageError User := do
  return {
    id := ← r.named "id" .text
    username := ← r.named "username" .text
    displayName := ← r.named "display_name" .text
    rank := ← r.named "rank" (.int .int64)
    isAdmin := ← r.named "is_admin" .bool
    status := ← r.named "status" (.textOf UserStatus.ofName?) }

/-- A badge in a row; icon and description may be missing. -/
def Badge.ofRow (r : Row) : Except StorageError Badge := do
  return {
    id := ← r.named "id" (.int .int64)
    name := ← r.named "name" .text
    icon := ← r.spare "icon" .text
    description := ← r.spare "description" .text
    level := ← r.named "level" (.textOf BadgeLevel.ofName?)
    awardType := ← r.named "award_type" (.textOf AwardType.ofName?)
    handler := ← r.named "handler" .text
    param := ← r.named "param" .json
    status := ← r.named "status" (.textOf BadgeStatus.ofName?)
    awardCount := ← r.named "award_count" (.int .int64)
    createdAt := ← r.named "created_at" .instant
    updatedAt := ← r.named "updated_at" .instant }

/-- An award in a row. -/
def Award.ofRow (r : Row) : Except StorageError Award := do
  let id ← r.named "id" (.int .int64)
  let userId ← r.named "user_id" .text
  let badgeId ← r.named "badge_id" (.int .int64)
  let key ← r.named "award_key" .text
  return ⟨id, ⟨userId, badgeId, key⟩, ← r.named "created_at" .instant⟩

/-- An object found, in a row. -/
def SearchItem.ofRow (r : Row) : Except StorageError SearchItem := do
  return {
    objectId := ← r.named "object_id" .text
    kind := ← r.named "object_type" (.textOf ObjectKind.ofName?)
    questionId := ← r.named "question_id" .text
    title := ← r.named "title" .text
    excerpt := ← r.named "excerpt" .text
    userId := ← r.named "user_id" .text
    voteCount := ← r.named "vote_count" (.int .int64)
    answerCount := ← r.named "answer_count" (.int .int64)
    accepted := ← r.named "accepted" .bool
    createdAt := ← r.named "created_at" .instant
    updatedAt := ← r.named "updated_at" .instant }

namespace Storage

/-- A question in a row. -/
def questionInfo (r : Row) : Except StorageError ObjectInfo := do
  let id ← r.at_ 0 .text
  let creator ← r.at_ 1 .text
  return { objectId := id, kind := .question, creator, questionId := some id }

/-- An answer in a row. -/
def answerInfo (r : Row) : Except StorageError ObjectInfo := do
  let id ← r.at_ 0 .text
  let creator ← r.at_ 1 .text
  let question ← r.at_ 2 .text
  return {
    objectId := id, kind := .answer, creator, questionId := some question, answerId := some id }

/-- A comment in a row; a comment on an answer belongs to it. -/
def commentInfo (r : Row) : Except StorageError ObjectInfo := do
  let id ← r.at_ 0 .text
  let creator ← r.at_ 1 .text
  let object ← r.at_ 2 .text
  let question ← r.at_ 3 .text
  return {
    objectId := id, kind := .comment, creator, questionId := some question
    answerId := if ObjectKind.ofObjectId? object = some .answer then some object else none
    commentId := some id }

/-- A tag in a row: nobody created it. -/
def tagInfo (r : Row) : Except StorageError ObjectInfo := do
  let id ← r.at_ 0 .text
  return { objectId := id, kind := .tag, creator := "", tagId := some id }

/-- A user in a row, as an object of their own. -/
def userInfo (r : Row) : Except StorageError ObjectInfo := do
  let id ← r.at_ 0 .text
  return { objectId := id, kind := .user, creator := id }

/-- Whose an object is. -/
def objectInfo (id : String) : Stored ObjectInfo :=
  match ObjectKind.ofObjectId? id with
  | none => throw (.invalidObjectId id)
  | some .question => fetchOn id (.question id) questionInfo
  | some .answer => fetchOn id (.answer id) answerInfo
  | some .comment => fetchOn id (.comment id) commentInfo
  | some .tag => fetchOn id (.tag id) tagInfo
  | some .user => fetchOn id (.user id) userInfo

/-- An award, counted at its badge. -/
def addAward (g : Grant) : Stored Int := transaction do
  let id ← fetchOne (.insertAward g) (scalar (.int .int64))
  let _ ← execute (.countAward g.badgeId)
  return id

/-- The badges of some rules; without rules nothing is asked. -/
def badgesOfHandlers (handlers : List String) : Stored (List Badge) :=
  if handlers.isEmpty then return [] else fetchAll (.badgesOfHandlers handlers) Badge.ofRow

/-- The votes of an object. -/
def voteCount (objectId : String) : Stored Int :=
  match (ObjectKind.ofObjectId? objectId).bind Post.ofKind? with
  | some p => fetchOn objectId (.voteCount p objectId) (scalar (.int .int64))
  | none => throw (.invalidObjectId objectId)

/-- How many results stand before a page. What does not fit into 64 bits wraps around. -/
def pageStart (page size : Int) : Int := Text.Width.int64.wrap (max (page - 1) 0 * size)

/-- A page of what matches a filter, and how much matches. The page is only asked for if there is
something on any page. -/
def found (f : SearchFilter) (page size : Int) (order : SearchOrder) :
    Stored (List SearchItem × Int) := do
  let total ← fetchOne (.countMatches f) (scalar (.int .int64))
  if total = 0 then return ([], 0)
  let items ← fetchAll (.pageOfMatches f order size (pageStart page size)) SearchItem.ofRow
  return (items, total)

/-- The program of a repository call. -/
def answer (ttl : Option Nat) : (c : Call) → Stored c.Reply
  | .getInt k => setting ttl k
  | .userById id => fetchOptional (.userById id) User.ofRow
  | .userByName n => fetchOptional (.userByName n) User.ofRow
  | .objectInfo id => objectInfo id
  | .write w => change w
  | .getBadge id => fetchOptional (.badge id) Badge.ofRow
  | .activeBadges => fetchAll .activeBadges Badge.ofRow
  | .badgesOfHandlers hs => badgesOfHandlers hs
  | .hasBadge u b => fetchOne (.hasBadge u b) (scalar .bool)
  | .hasAward u b k => fetchOne (.hasAward u b k) (scalar .bool)
  | .addAward g => addAward g
  | .awardsOf u => fetchAll (.awardsOf u) Award.ofRow
  | .voteCount o => voteCount o
  | .acceptedCount u => fetchOne (.acceptedCount u) (scalar (.int .int64))
  | .addNotification n => fetchOne (.insertNotification n) (scalar (.int .int64))
  | .search f page size order => found f page size order

/-- Is the database there? -/
def health : Stored Unit := do
  let _ ← execute .ping

end Storage

end Forum
