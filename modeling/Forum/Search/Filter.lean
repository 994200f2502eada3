import Forum.Instant
import Forum.Object
import Forum.Search.Query

/-!
# What a search asks for and finds

* `SearchOrder`, `SearchScope`, `SearchFilter`: what is looked for, and in which order it is listed;
* `SearchRequest`, `SearchRequest.fault?`: a query with a page, and what is wrong with it;
* `SearchItem`, `SearchResponse`.
-/

namespace Forum

/-- The order of the results. -/
inductive SearchOrder where
  | relevance
  | newest
  | active
  | score
deriving DecidableEq, Repr

namespace SearchOrder

def all : List SearchOrder := [relevance, newest, active, score]

def name : SearchOrder → String
  | relevance => "relevance"
  | newest => "newest"
  | active => "active"
  | score => "score"

def ofName? (s : String) : Option SearchOrder := all.find? (·.name = s)

def decoder : Json.Decoder SearchOrder := Json.Decoder.choice ofName?

end SearchOrder

/-- The kinds of objects looked for. -/
inductive SearchScope where
  | all
  | question
  | answer
deriving DecidableEq, Repr

namespace SearchScope

def name : SearchScope → String
  | all => "all"
  | question => "question"
  | answer => "answer"

def ofName? (s : String) : Option SearchScope := [all, question, answer].find? (·.name = s)

def includesQuestions : SearchScope → Bool
  | all | question => true
  | answer => false

def includesAnswers : SearchScope → Bool
  | all | answer => true
  | question => false

end SearchScope

/-- How many words of a query are looked for. -/
def maxSearchWords : Nat := 5

/-- The words of a query; those beyond the limit are dropped. -/
def searchWords (s : String) : List String :=
  ((Text.words s.toList).take maxSearchWords).map String.ofList

/-- What is looked for: objects in scope with every word, and with every criterion that is given. -/
structure SearchFilter where
  scope : SearchScope := .all
  words : List String := []
  phrase : Option String := none
  tag : Option String := none
  userId : Option String := none
  minScore : Option Int := none
  minAnswers : Option Int := none
  accepted : Option Bool := none
  hasAccepted : Option Bool := none
deriving DecidableEq, Repr

namespace SearchFilter

/-- The filter in JSON. -/
def toJson (f : SearchFilter) : Json :=
  let int? : Option Int → Json := fun o => (o.map .int).getD .null
  let bool? : Option Bool → Json := fun o => (o.map .bool).getD .null
  .object [("scope", .text f.scope.name), ("words", .list (f.words.map .text)),
    ("phrase", .ofText? f.phrase), ("tag", .ofText? f.tag), ("user_id", .ofText? f.userId),
    ("min_score", int? f.minScore), ("min_answers", int? f.minAnswers),
    ("accepted", bool? f.accepted), ("has_accepted", bool? f.hasAccepted)]

end SearchFilter

/-- A query and the page of its results. -/
structure SearchRequest where
  q : String
  page : Int := 1
  size : Int := 20
  order : SearchOrder := .relevance
deriving DecidableEq, Repr

namespace SearchRequest

/-- The largest page. -/
def maxSize : Int := 100

/-- What is wrong with a request. -/
def fault? (r : SearchRequest) : Option String :=
  if (Text.trim r.q.toList).isEmpty then some "q 不能为空"
  else if r.page < 1 then some "page 必须大于等于 1"
  else if r.size < 1 ∨ maxSize < r.size then some "size 必须在 1 到 100 之间"
  else none

def toJson (r : SearchRequest) : Json :=
  .object [("q", .text r.q), ("page", .int r.page), ("size", .int r.size),
    ("order", .text r.order.name)]

open Json Decoder in
def record : Record SearchRequest :=
  (Record.ofFunction SearchRequest.mk).required "q" string
    |>.defaulted "page" (int .nat32) 1 |>.defaulted "size" (int .nat32) 20
    |>.defaulted "order" SearchOrder.decoder .relevance

end SearchRequest

/-- An object found. -/
structure SearchItem where
  objectId : String
  kind : ObjectKind
  questionId : String
  title : String
  excerpt : String
  userId : String
  voteCount : Int
  answerCount : Int
  accepted : Bool
  createdAt : Instant
  updatedAt : Instant
deriving DecidableEq, Repr

namespace SearchItem

def toJson (i : SearchItem) : Json :=
  .object [("objectId", .text i.objectId), ("objectType", .text i.kind.name),
    ("questionId", .text i.questionId), ("title", .text i.title), ("excerpt", .text i.excerpt),
    ("userId", .text i.userId), ("voteCount", .int i.voteCount),
    ("answerCount", .int i.answerCount), ("accepted", .bool i.accepted),
    ("createdAt", i.createdAt.toJson), ("updatedAt", i.updatedAt.toJson)]

open Json Decoder in
def record : Record SearchItem :=
  (Record.ofFunction SearchItem.mk).required "objectId" string
    |>.required "objectType" ObjectKind.decoder |>.required "questionId" string
    |>.required "title" string |>.required "excerpt" string |>.required "userId" string
    |>.required "voteCount" (int .int64) |>.required "answerCount" (int .int64)
    |>.required "accepted" bool |>.required "createdAt" Instant.decoder
    |>.required "updatedAt" Instant.decoder

end SearchItem

/-- A page of results, and how many there are on all pages. -/
structure SearchResponse where
  total : Int
  page : Int
  size : Int
  form : SearchForm
  items : List SearchItem

namespace SearchResponse

/-- The response that nothing was found. -/
def empty (r : SearchRequest) (form : SearchForm) : SearchResponse := ⟨0, r.page, r.size, form, []⟩

def toJson (r : SearchResponse) : Json :=
  .object [("total", .int r.total), ("page", .int r.page), ("size", .int r.size),
    ("syntax", .text r.form.name), ("items", .list (r.items.map SearchItem.toJson))]

end SearchResponse

end Forum
