import Forum.Search.Filter
import Forum.Sql.Value

/-!
# The statements of a search

Questions and answers are selected apart and united. Nothing that a user wrote enters the text: it
is passed in parameters, which are numbered in the order of the text.

* `likePattern`: the pattern that matches what contains a word;
* `Fragment`, `Fragment.text`, `Fragment.params`: a statement in pieces;
* `union`, `countMatches`, `pageOfMatches`: the statements of a filter.
-/

namespace Forum.Sql

/-- The characters with a meaning in a pattern. -/
def isWildcard (c : Char) : Bool := c = '%' || c = '_' || c = '\\'

/-- A word with its wildcards made literal. -/
def escapeLike (s : List Char) : List Char :=
  s.flatMap fun c => if isWildcard c then ['\\', c] else [c]

/-- The pattern that matches what contains a word. -/
def likePattern (word : String) : String :=
  String.ofList ('%' :: escapeLike word.toList ++ ['%'])

/-- A piece of a statement: plain text, or a parameter. -/
inductive Fragment where
  | plain (s : String)
  | param (v : Value)

namespace Fragment

/-- The pieces of a text, its parameters numbered from `n` on. -/
def textFrom (n : Nat) : List Fragment → List String
  | [] => []
  | plain s :: fs => s :: textFrom n fs
  | param _ :: fs => ("$" ++ n.repr) :: textFrom (n + 1) fs

/-- The text of a statement. -/
def text (fs : List Fragment) : String := String.join (textFrom 1 fs)

/-- The parameters in order. -/
def params (fs : List Fragment) : List Value :=
  fs.filterMap fun
    | plain _ => none
    | param v => some v

end Fragment

open Fragment

/-- A text parameter. -/
def textParam (s : String) : Fragment := param (.text s)

/-- An integer parameter. -/
def intParam (n : Int) : Fragment := param (.int64 n)

/-- A condition on an optional criterion. -/
def criterion {α : Type} (o : Option α) (f : α → List Fragment) : List Fragment :=
  match o with
  | some a => f a
  | none => []

/-- The number of words that the title has. -/
def relevance (f : SearchFilter) : List Fragment :=
  if f.words.isEmpty then [plain "0"]
  else
    let hit (w : String) : List Fragment :=
      [plain "CASE WHEN q.title ILIKE ", textParam (likePattern w), plain " THEN 1 ELSE 0 END"]
    plain "(" :: (List.intersperse [plain " + "] (f.words.map hit)).flatten ++ [plain ")"]

/-- What must be found in the text. -/
def terms (f : SearchFilter) : List String := f.words ++ f.phrase.toList

/-- Every term is in the title or the text of the question. -/
def questionText (f : SearchFilter) : List Fragment :=
  (terms f).flatMap fun t =>
    [plain " AND (q.title ILIKE ", textParam (likePattern t), plain " OR q.original_text ILIKE ",
      textParam (likePattern t), plain ")"]

/-- Every term is in the text of the answer. -/
def answerText (f : SearchFilter) : List Fragment :=
  (terms f).flatMap fun t => [plain " AND a.original_text ILIKE ", textParam (likePattern t)]

/-- The question has the tag. -/
def tagged (f : SearchFilter) : List Fragment :=
  criterion f.tag fun t =>
    [plain (" AND EXISTS (SELECT 1 FROM tag_rel tr JOIN tag tg ON tg.id = tr.tag_id " ++
        "WHERE tr.object_id = q.id AND tg.slug_name = "), textParam t, plain ")"]

/-- The questions that match. -/
def questions (f : SearchFilter) : List Fragment :=
  plain ("SELECT q.id AS object_id, 'question'::varchar AS object_type, q.id AS question_id, " ++
      "q.title AS title, LEFT(q.original_text, 200) AS excerpt, q.user_id AS user_id, " ++
      "q.vote_count AS vote_count, q.answer_count AS answer_count, " ++
      "(q.accepted_answer_id IS NOT NULL) AS accepted, q.created_at AS created_at, " ++
      "q.updated_at AS updated_at, ") ::
    relevance f ++ [plain " AS relevance FROM question q WHERE q.status <> 'deleted'"] ++
    questionText f ++ tagged f ++
    criterion f.userId (fun u => [plain " AND q.user_id = ", textParam u]) ++
    criterion f.minScore (fun n => [plain " AND q.vote_count >= ", intParam n]) ++
    criterion f.minAnswers (fun n => [plain " AND q.answer_count >= ", intParam n]) ++
    criterion f.hasAccepted fun yes =>
      [plain (if yes then " AND q.accepted_answer_id IS NOT NULL"
        else " AND q.accepted_answer_id IS NULL")]

/-- The answers that match. -/
def answers (f : SearchFilter) : List Fragment :=
  plain ("SELECT a.id AS object_id, 'answer'::varchar AS object_type, " ++
      "a.question_id AS question_id, q.title AS title, LEFT(a.original_text, 200) AS excerpt, " ++
      "a.user_id AS user_id, a.vote_count AS vote_count, 0::bigint AS answer_count, " ++
      "a.accepted AS accepted, a.created_at AS created_at, a.updated_at AS updated_at, ") ::
    relevance f ++
    [plain (" AS relevance FROM answer a JOIN question q ON q.id = a.question_id " ++
      "WHERE a.status <> 'deleted' AND q.status <> 'deleted'")] ++
    answerText f ++ tagged f ++
    criterion f.userId (fun u => [plain " AND a.user_id = ", textParam u]) ++
    criterion f.minScore (fun n => [plain " AND a.vote_count >= ", intParam n]) ++
    criterion f.accepted fun yes => [plain " AND a.accepted = ", param (.bool yes)]

/-- All that matches a filter. -/
def union (f : SearchFilter) : List Fragment :=
  match f.scope with
  | .question => questions f
  | .answer => answers f
  | .all => questions f ++ plain " UNION ALL " :: answers f

/-- The clause of an order. -/
def orderClause : SearchOrder → String
  | .relevance => " ORDER BY t.relevance DESC, t.vote_count DESC, t.created_at DESC"
  | .newest => " ORDER BY t.created_at DESC"
  | .active => " ORDER BY t.updated_at DESC"
  | .score => " ORDER BY t.vote_count DESC, t.created_at DESC"

/-- The statement that counts what matches. -/
def countMatches (f : SearchFilter) : List Fragment :=
  plain "SELECT COUNT(*) FROM (" :: union f ++ [plain ") t"]

/-- The statement that lists a part of what matches. -/
def pageOfMatches (f : SearchFilter) (order : SearchOrder) (size offset : Int) : List Fragment :=
  plain "SELECT t.* FROM (" :: union f ++
    [plain ") t", plain (orderClause order), plain " LIMIT ", intParam size, plain " OFFSET ",
      intParam offset]

end Forum.Sql
