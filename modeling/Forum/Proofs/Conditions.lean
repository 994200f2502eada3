import Forum.Proofs.Conjuncts

/-!
# The conditions of a search

A search unites a selection of questions and one of answers. Each selects by the same criteria, as
far as objects of its kind have them.

* `Branch`, `branches`: the two selections, and those that a scope takes;
* `Criterion`, `criteria`: what a filter asks for, one by one;
* `Criterion.condition?`: the condition that a criterion is in a selection, if it is one there;
* **`filled_select`**, **`filled_union`**: a selection holds where all conditions of the filter do;
* **`conjuncts_clause`**: these conditions are the conjuncts of its clause.
-/

namespace Forum.Sql

/-- The selections that a search unites. -/
inductive Branch where
  | question
  | answer
deriving DecidableEq, Repr

/-- The selections that a scope takes. -/
def branches : SearchScope → List Branch
  | .all => [.question, .answer]
  | .question => [.question]
  | .answer => [.answer]

/-- What a filter asks for. -/
inductive Criterion where
  | word (w : String)
  | phrase (p : String)
  | tag (t : String)
  | user (id : String)
  | minScore (n : Int)
  | minAnswers (n : Int)
  | hasAccepted (yes : Bool)
  | accepted (yes : Bool)
deriving DecidableEq, Repr

/-- All that a filter asks for, but its scope. -/
def criteria (f : SearchFilter) : List Criterion :=
  f.words.map .word ++ f.phrase.toList.map .phrase ++ f.tag.toList.map .tag ++
    f.userId.toList.map .user ++ f.minScore.toList.map .minScore ++
    f.minAnswers.toList.map .minAnswers ++ f.hasAccepted.toList.map .hasAccepted ++
    f.accepted.toList.map .accepted

namespace Filled

/-- The pattern that a text with a word in it has. -/
def like (word : String) : Filled := value (.text (likePattern word))

/-- How many words the title holds: the sum of a one for each. -/
def titleHits (words : List String) : Filled :=
  if words.isEmpty then plain "0"
  else
    plain "(" ++ (plain " + ").intercalate (words.map fun w =>
      plain "CASE WHEN q.title ILIKE " ++ like w ++ plain " THEN 1 ELSE 0 END") ++ plain ")"

end Filled

namespace Branch

/-- The statement of a selection. -/
def select : Branch → SearchFilter → List Fragment
  | question => questions
  | answer => answers

/-- The columns of a selection, but the last. -/
def columns : Branch → String
  | question =>
    "SELECT q.id AS object_id, 'question'::varchar AS object_type, q.id AS question_id, " ++
      "q.title AS title, LEFT(q.original_text, 200) AS excerpt, q.user_id AS user_id, " ++
      "q.vote_count AS vote_count, q.answer_count AS answer_count, " ++
      "(q.accepted_answer_id IS NOT NULL) AS accepted, q.created_at AS created_at, " ++
      "q.updated_at AS updated_at, "
  | answer =>
    "SELECT a.id AS object_id, 'answer'::varchar AS object_type, " ++
      "a.question_id AS question_id, q.title AS title, LEFT(a.original_text, 200) AS excerpt, " ++
      "a.user_id AS user_id, a.vote_count AS vote_count, 0::bigint AS answer_count, " ++
      "a.accepted AS accepted, a.created_at AS created_at, a.updated_at AS updated_at, "

/-- The last column of a selection, and its tables. -/
def source : Branch → String
  | question => " AS relevance FROM question q"
  | answer => " AS relevance FROM answer a JOIN question q ON q.id = a.question_id"

/-- What a selection asks for whatever the filter: nothing is found that is deleted. -/
def standing : Branch → List String
  | question => ["q.status <> 'deleted'"]
  | answer => ["a.status <> 'deleted'", "q.status <> 'deleted'"]

end Branch

open Filled in
/-- The condition that a criterion is. Only questions have answers and an accepted answer, and only
answers are accepted. -/
def Criterion.condition? : Criterion → Branch → Option Filled
  | word t, .question | phrase t, .question =>
    some (plain "(q.title ILIKE " ++ like t ++ plain " OR q.original_text ILIKE " ++ like t ++
      plain ")")
  | word t, .answer | phrase t, .answer => some (plain "a.original_text ILIKE " ++ like t)
  | tag t, _ =>
    some (plain ("EXISTS (SELECT 1 FROM tag_rel tr JOIN tag tg ON tg.id = tr.tag_id " ++
      "WHERE tr.object_id = q.id AND tg.slug_name = ") ++ value (.text t) ++ plain ")")
  | user id, .question => some (plain "q.user_id = " ++ value (.text id))
  | user id, .answer => some (plain "a.user_id = " ++ value (.text id))
  | minScore n, .question => some (plain "q.vote_count >= " ++ value (.int64 n))
  | minScore n, .answer => some (plain "a.vote_count >= " ++ value (.int64 n))
  | minAnswers n, .question => some (plain "q.answer_count >= " ++ value (.int64 n))
  | minAnswers _, .answer => none
  | hasAccepted true, .question => some (plain "q.accepted_answer_id IS NOT NULL")
  | hasAccepted false, .question => some (plain "q.accepted_answer_id IS NULL")
  | hasAccepted _, .answer => none
  | accepted _, .question => none
  | accepted yes, .answer => some (plain "a.accepted = " ++ value (.bool yes))

/-- The conditions that some criteria are in a selection. -/
def Branch.conditions (b : Branch) (cs : List Criterion) : List Filled :=
  cs.filterMap (·.condition? b)

/-- The clause of a selection: all that must hold of an object. -/
def Branch.clause (b : Branch) (f : SearchFilter) : List Filled :=
  b.standing.map Filled.plain ++ b.conditions (criteria f)

namespace Filled

/-- Conditions after others. -/
def andAll (fs : List Filled) : Filled := fs.flatMap (plain " AND " ++ ·)

@[simp] theorem andAll_append (fs gs : List Filled) : andAll (fs ++ gs) = andAll fs ++ andAll gs :=
  List.flatMap_append

theorem andAll_singleton (f : Filled) : andAll [f] = plain " AND " ++ f := List.append_nil _

end Filled

/-! ## Criteria as conditions -/

open Fragment hiding plain
open Filled

namespace Branch

variable (b : Branch)

@[simp] theorem conditions_append (cs ds : List Criterion) :
    b.conditions (cs ++ ds) = b.conditions cs ++ b.conditions ds := List.filterMap_append

theorem conditions_cons (c : Criterion) (cs : List Criterion) :
    b.conditions (c :: cs) = (c.condition? b).toList ++ b.conditions cs := by
  rw [conditions, List.filterMap_cons]
  cases c.condition? b <;> rfl

variable {b} {α : Type} {m : α → Criterion} {p : α → List Fragment}

theorem filled_flatMap_pieces (h : ∀ a, filled (p a) = andAll ((m a).condition? b).toList)
    (l : List α) : filled (l.flatMap p) = andAll (b.conditions (l.map m)) := by
  induction l with
  | nil => rfl
  | cons a l ih =>
    rw [List.flatMap_cons, filled_append, h, ih, List.map_cons, conditions_cons, andAll_append]

theorem filled_criterion (h : ∀ a, filled (p a) = andAll ((m a).condition? b).toList)
    (o : Option α) : filled (criterion o p) = andAll (b.conditions (o.toList.map m)) := by
  rw [← filled_flatMap_pieces h]
  cases o with
  | none => rfl
  | some a => exact congrArg filled (List.append_nil (p a)).symm

theorem conditions_absent (h : ∀ a, (m a).condition? b = none) (l : List α) :
    b.conditions (l.map m) = [] := by
  refine List.filterMap_eq_nil_iff.mpr fun c hc => ?_
  obtain ⟨a, -, rfl⟩ := List.mem_map.mp hc
  exact h a

end Branch

theorem filled_andAll {s u : String} {fs : List Fragment} {c : Filled} (hs : " AND " ++ u = s)
    (hc : plain u ++ filled fs = c) : filled (.plain s :: fs) = andAll [c] := by
  rw [filled_plain, plain_split hs, List.append_assoc, hc, andAll_singleton]

theorem filled_questionText (f : SearchFilter) :
    filled (questionText f) =
      andAll (Branch.question.conditions (f.words.map .word ++ f.phrase.toList.map .phrase)) := by
  have term (t : String) : filled [.plain " AND (q.title ILIKE ", textParam (likePattern t),
      .plain " OR q.original_text ILIKE ", textParam (likePattern t), .plain ")"] =
        andAll ((Criterion.word t).condition? .question).toList :=
    filled_andAll (u := "(q.title ILIKE ") rfl
      (by simp only [textParam, filled_param, filled_plain, filled_nil, like, List.append_assoc,
        List.append_nil])
  rw [questionText, terms, List.flatMap_append, filled_append, Branch.conditions_append,
    andAll_append, Branch.filled_flatMap_pieces (b := .question) (m := .word) term,
    Branch.filled_flatMap_pieces (b := .question) (m := .phrase) term]

theorem filled_answerText (f : SearchFilter) :
    filled (answerText f) =
      andAll (Branch.answer.conditions (f.words.map .word ++ f.phrase.toList.map .phrase)) := by
  have term (t : String) :
      filled [.plain " AND a.original_text ILIKE ", textParam (likePattern t)] =
        andAll ((Criterion.word t).condition? .answer).toList :=
    filled_andAll (u := "a.original_text ILIKE ") rfl rfl
  rw [answerText, terms, List.flatMap_append, filled_append, Branch.conditions_append,
    andAll_append, Branch.filled_flatMap_pieces (b := .answer) (m := .word) term,
    Branch.filled_flatMap_pieces (b := .answer) (m := .phrase) term]

theorem filled_tagged (f : SearchFilter) (b : Branch) :
    filled (tagged f) = andAll (b.conditions (f.tag.toList.map .tag)) := by
  refine Branch.filled_criterion (m := .tag) (fun t => ?_) f.tag
  refine filled_andAll (u := "EXISTS (SELECT 1 FROM tag_rel tr JOIN tag tg ON tg.id = tr.tag_id " ++
    "WHERE tr.object_id = q.id AND tg.slug_name = ") rfl ?_
  rfl

/-! ## Selections -/

theorem filled_intercalate (sep : List Fragment) (l : List (List Fragment)) :
    filled (sep.intercalate l) = (filled sep).intercalate (l.map filled) := by
  cases l with
  | nil => rfl
  | cons fs l =>
    rw [List.map_cons, intercalate_cons, intercalate_cons, filled_append, filled_flatMap,
      List.flatMap_map]
    simp only [filled_append]

theorem filled_relevance (f : SearchFilter) : filled (relevance f) = titleHits f.words := by
  have hits : filled ([.plain " + "].intercalate (f.words.map fun w =>
      [.plain "CASE WHEN q.title ILIKE ", textParam (likePattern w),
        .plain " THEN 1 ELSE 0 END"])) =
      (plain " + ").intercalate (f.words.map fun w =>
        plain "CASE WHEN q.title ILIKE " ++ like w ++ plain " THEN 1 ELSE 0 END") := by
    rw [filled_intercalate, List.map_map]
    rfl
  unfold relevance titleHits
  split
  · rfl
  · change filled (.plain "(" :: (List.intercalate _ _) ++ [.plain ")"]) = _
    rw [filled_append, filled_plain, hits]
    rfl

theorem filled_questions (f : SearchFilter) :
    filled (questions f) = plain Branch.question.columns ++ titleHits f.words ++
      plain " AS relevance FROM question q WHERE q.status <> 'deleted'" ++
        andAll (Branch.question.conditions (criteria f)) := by
  have user (u : String) : filled [.plain " AND q.user_id = ", textParam u] =
      andAll ((Criterion.user u).condition? .question).toList :=
    filled_andAll (u := "q.user_id = ") rfl rfl
  have score (n : Int) : filled [.plain " AND q.vote_count >= ", intParam n] =
      andAll ((Criterion.minScore n).condition? .question).toList :=
    filled_andAll (u := "q.vote_count >= ") rfl rfl
  have answerCount (n : Int) : filled [.plain " AND q.answer_count >= ", intParam n] =
      andAll ((Criterion.minAnswers n).condition? .question).toList :=
    filled_andAll (u := "q.answer_count >= ") rfl rfl
  have hasAccepted (yes : Bool) : filled [.plain (if yes then
      " AND q.accepted_answer_id IS NOT NULL" else " AND q.accepted_answer_id IS NULL")] =
      andAll ((Criterion.hasAccepted yes).condition? .question).toList := by
    cases yes with
    | true => exact filled_andAll (u := "q.accepted_answer_id IS NOT NULL") rfl rfl
    | false => exact filled_andAll (u := "q.accepted_answer_id IS NULL") rfl rfl
  have accepted : Branch.question.conditions (f.accepted.toList.map .accepted) = [] :=
    Branch.conditions_absent (fun _ => rfl) _
  rw [criteria, Branch.conditions_append, accepted, List.append_nil]
  rw [questions]
  simp only [filled_append, filled_plain, filled_nil, List.cons_append]
  rw [filled_relevance, filled_questionText, filled_tagged _ .question,
    Branch.filled_criterion user f.userId, Branch.filled_criterion score f.minScore,
    Branch.filled_criterion answerCount f.minAnswers,
    Branch.filled_criterion hasAccepted f.hasAccepted]
  simp only [Branch.conditions_append, andAll_append, List.append_assoc, List.append_nil]
  rfl

theorem filled_answers (f : SearchFilter) :
    filled (answers f) = plain Branch.answer.columns ++ titleHits f.words ++
      plain (" AS relevance FROM answer a JOIN question q ON q.id = a.question_id " ++
        "WHERE a.status <> 'deleted' AND q.status <> 'deleted'") ++
        andAll (Branch.answer.conditions (criteria f)) := by
  have user (u : String) : filled [.plain " AND a.user_id = ", textParam u] =
      andAll ((Criterion.user u).condition? .answer).toList :=
    filled_andAll (u := "a.user_id = ") rfl rfl
  have score (n : Int) : filled [.plain " AND a.vote_count >= ", intParam n] =
      andAll ((Criterion.minScore n).condition? .answer).toList :=
    filled_andAll (u := "a.vote_count >= ") rfl rfl
  have accepted (yes : Bool) : filled [.plain " AND a.accepted = ", .param (.bool yes)] =
      andAll ((Criterion.accepted yes).condition? .answer).toList :=
    filled_andAll (u := "a.accepted = ") rfl rfl
  have answerCount : Branch.answer.conditions (f.minAnswers.toList.map .minAnswers) = [] :=
    Branch.conditions_absent (fun _ => rfl) _
  have hasAccepted : Branch.answer.conditions (f.hasAccepted.toList.map .hasAccepted) = [] :=
    Branch.conditions_absent (fun yes => by cases yes <;> rfl) _
  rw [criteria]
  rw [answers]
  simp only [filled_append, filled_plain, filled_nil, List.cons_append]
  rw [filled_relevance, filled_answerText, filled_tagged _ .answer,
    Branch.filled_criterion user f.userId, Branch.filled_criterion score f.minScore,
    Branch.filled_criterion accepted f.accepted]
  simp only [Branch.conditions_append, answerCount, hasAccepted, andAll_append, List.append_assoc,
    List.append_nil]
  rfl

/-- What a selection begins with. -/
def Branch.head (b : Branch) (words : List String) : Filled :=
  plain b.columns ++ titleHits words ++ plain b.source

/-- **A selection** takes the objects for which all of its clause holds. -/
theorem filled_select (b : Branch) (f : SearchFilter) :
    filled (b.select f) =
      b.head f.words ++ plain " WHERE " ++ (plain " AND ").intercalate (b.clause f) := by
  cases b with
  | question =>
    have clause : (plain " AND ").intercalate (Branch.question.clause f) =
        plain "q.status <> 'deleted'" ++ andAll (Branch.question.conditions (criteria f)) :=
      intercalate_cons _ _ _
    have source : plain " AS relevance FROM question q WHERE q.status <> 'deleted'" =
        plain Branch.question.source ++ plain " WHERE " ++ plain "q.status <> 'deleted'" := by
      rw [← plain_split (t := Branch.question.source) (u := " WHERE ") rfl, ← plain_split rfl]
      rfl
    change filled (questions f) = _
    rw [filled_questions, clause, source, Branch.head]
    simp only [List.append_assoc]
  | answer =>
    have clause : (plain " AND ").intercalate (Branch.answer.clause f) =
        plain "a.status <> 'deleted'" ++ (plain " AND " ++ plain "q.status <> 'deleted'" ++
          andAll (Branch.answer.conditions (criteria f))) :=
      intercalate_cons _ _ _
    have source : plain (" AS relevance FROM answer a JOIN question q ON q.id = a.question_id " ++
        "WHERE a.status <> 'deleted' AND q.status <> 'deleted'") =
        plain Branch.answer.source ++ plain " WHERE " ++ plain "a.status <> 'deleted'" ++
          plain " AND " ++ plain "q.status <> 'deleted'" := by
      rw [← plain_split (t := Branch.answer.source) (u := " WHERE ") rfl, ← plain_split rfl,
        ← plain_split rfl, ← plain_split rfl]
      rfl
    change filled (answers f) = _
    rw [filled_answers, clause, source, Branch.head]
    simp only [List.append_assoc]

/-- **A search** unites the selections of its scope. -/
theorem filled_union (f : SearchFilter) :
    filled (union f) = (plain " UNION ALL ").intercalate
      ((branches f.scope).map fun b => filled (b.select f)) := by
  unfold union
  cases f.scope with
  | question => exact (List.append_nil _).symm
  | answer => exact (List.append_nil _).symm
  | all =>
    change _ = (plain " UNION ALL ").intercalate [filled (questions f), filled (answers f)]
    rw [filled_append, filled_plain, intercalate_cons, List.flatMap_singleton]

/-! ## Conjuncts -/

theorem passes_of_append {p q : Cursor} {f : Filled} (h : passes p f = some q) (g : Filled) :
    passes p (f ++ g) = passes q g := by
  rw [passes_append, h]
  rfl

theorem whole_comparison {s : String} (v : Value)
    (h : (passes .start (plain s)).map Cursor.depth = some 0) : Whole (plain s ++ value v) := by
  obtain ⟨p, hp, hdepth⟩ := Option.map_eq_some_iff.mp h
  rw [Whole, passes_of_append hp, passes_value, hdepth]
  rfl

theorem whole_condition {c : Criterion} {b : Branch} {g : Filled} (h : c.condition? b = some g) :
    Whole g := by
  have inTitleOrText (t : String) : Whole (plain "(q.title ILIKE " ++ like t ++
      plain " OR q.original_text ILIKE " ++ like t ++ plain ")") := by
    have hopen : passes .start (plain "(q.title ILIKE ") = some ⟨1, 0⟩ := by decide +kernel
    have hor : passes ⟨1, 0⟩ (plain " OR q.original_text ILIKE ") = some ⟨1, 0⟩ := by
      decide +kernel
    have hclose : passes ⟨1, 0⟩ (plain ")") = some .start := by decide +kernel
    simp only [Whole, passes_append, hopen, hor, hclose, like, passes_value, Option.bind_some]
  have inTag (t : String) : Whole (plain ("EXISTS (SELECT 1 FROM tag_rel tr JOIN tag tg " ++
      "ON tg.id = tr.tag_id WHERE tr.object_id = q.id AND tg.slug_name = ") ++
        value (.text t) ++ plain ")") := by
    have hopen : passes .start (plain ("EXISTS (SELECT 1 FROM tag_rel tr JOIN tag tg " ++
      "ON tg.id = tr.tag_id WHERE tr.object_id = q.id AND tg.slug_name = ")) = some ⟨1, 0⟩ := by
      decide +kernel
    have hclose : passes ⟨1, 0⟩ (plain ")") = some .start := by decide +kernel
    simp only [Whole, passes_append, hopen, hclose, passes_value, Option.bind_some]
  have comparison {s : String} (v : Value)
      (hs : (passes .start (plain s)).map Cursor.depth = some 0) (hg : some (plain s ++ value v) =
        some g) : Whole g := Option.some.inj hg ▸ whole_comparison v hs
  cases c with
  | word t | phrase t =>
    cases b with
    | question => exact Option.some.inj h ▸ inTitleOrText t
    | answer => exact comparison _ (by decide +kernel) h
  | tag t => exact Option.some.inj h ▸ inTag t
  | user id => cases b <;> exact comparison _ (by decide +kernel) h
  | minScore n => cases b <;> exact comparison _ (by decide +kernel) h
  | minAnswers n =>
    cases b with
    | question => exact comparison _ (by decide +kernel) h
    | answer => cases h
  | hasAccepted yes =>
    cases b with
    | question =>
      cases yes with
      | true =>
        have hnotNull : passes .start (plain "q.accepted_answer_id IS NOT NULL") =
            some .start := by decide +kernel
        exact Option.some.inj h ▸ hnotNull
      | false =>
        have hnull : passes .start (plain "q.accepted_answer_id IS NULL") = some .start := by
          decide +kernel
        exact Option.some.inj h ▸ hnull
    | answer => cases yes <;> cases h
  | accepted yes =>
    cases b with
    | question => cases h
    | answer => exact comparison _ (by decide +kernel) h

/-- **The conjuncts of a clause** are its conditions. -/
theorem conjuncts_clause (b : Branch) (f : SearchFilter) :
    conjuncts ((plain " AND ").intercalate (b.clause f)) = b.clause f := by
  have hstanding : b.standing.all fun s => passes .start (plain s) = some .start := by
    cases b <;> decide +kernel
  refine conjuncts_intercalate ?_ fun g hg => ?_
  · cases b <;> exact List.cons_ne_nil _ _
  · rcases List.mem_append.mp hg with hg | hg
    · obtain ⟨s, hs, rfl⟩ := List.mem_map.mp hg
      have hpass : passes .start (plain s) = some .start :=
        of_decide_eq_true (List.all_eq_true.mp hstanding s hs)
      exact hpass
    · obtain ⟨c, -, hc⟩ := List.mem_filterMap.mp hg
      exact whole_condition hc

end Forum.Sql
