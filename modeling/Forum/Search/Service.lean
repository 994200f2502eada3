import Forum.Search.Filter
import Forum.Service
import Forum.Text.LetterCase

/-!
# Searching

* `Search.resolveAuthor`: the user that an author criterion names; `me` is the user who asks;
* `Search.filter?`: the filter of a query, none if its author cannot be found;
* `Search.search`: the results of a request.
-/

namespace Forum.Search

/-- The user that an author criterion names. -/
def resolveAuthor (name : String) (asker : Option String) : Fallible (Option String) := do
  if Text.equalAscii name "me" then return asker.filter (· ≠ "")
  return (← Service.call (.userByName name)).map (·.id)

/-- The integer that a number criterion has as its argument. -/
def number (arg : String) : Fallible Int :=
  match Text.Width.int64.read arg.toList with
  | some n => return n
  | none => throw (.validation ("无效的数值: " ++ arg))

/-- The filter of a query; none if nothing can match. -/
def filter? (q : Query) (asker : Option String) : Fallible (Option SearchFilter) := do
  let plain : SearchFilter := { words := searchWords q.words }
  match q.form with
  | .tag => return some { plain with scope := .question, tag := some (Text.lowercase q.arg) }
  | .author =>
    return (← resolveAuthor q.arg asker).map fun id => { plain with userId := some id }
  | .score => return some { plain with minScore := some (← number q.arg) }
  | .answerCount =>
    return some { plain with scope := .question, minAnswers := some (← number q.arg) }
  | .accepted => return some { plain with scope := .answer, accepted := some (q.arg = "yes") }
  | .hasAccepted =>
    return some { plain with scope := .question, hasAccepted := some (q.arg = "yes") }
  | .isQuestion => return some { plain with scope := .question }
  | .isAnswer => return some { plain with scope := .answer }
  | .quote => return some { plain with phrase := some q.arg }
  | .plain => return some plain

/-- The results of a request. Only a search that was carried out is counted. -/
def search (r : SearchRequest) (asker : Option String) : Fallible SearchResponse := do
  match r.fault? with
  | some detail => throw (.validation detail)
  | none =>
    let q := Query.parse r.q
    match ← filter? q asker with
    | none => return .empty r q.form
    | some filter =>
      let (items, total) ← Service.call (.search filter r.page r.size r.order)
      Service.count (.searchQuery q.form)
      return ⟨total, r.page, r.size, q.form, items⟩

end Forum.Search
