import Forum.Proofs.Conditions
import Forum.Proofs.Tables
import Forum.Storage.Repository

/-!
# What a search finds

The questions and answers in the tables for which all of a filter's clause holds, with the columns
that they are listed by.

* `Library`: the contents of the tables that a search reads;
* `Hit`, `Hit.item`: a question, or an answer with its question, and how it is shown;
* `Library.holds`, `Library.hits`: what a criterion means, and what matches a filter;
* `Library.row`, **`ofRow_row`**: the row of a hit, and that it is read back;
* **`mem_hits`**: what is found, by the conditions of its selection;
* **`nodup_items`**: nothing is found twice;
* **`orderClause_eq`**, `sortKey`: the columns that an order sorts by.
-/

namespace Forum

open Sql

/-- A question, with the slugs of its tags and its times. -/
structure Library.Question where
  id : String
  row : Tables.QuestionRow
  tags : List String := []
  createdAt : Instant
  updatedAt : Instant

/-- An answer, with its times. -/
structure Library.Answer where
  id : String
  row : Tables.AnswerRow
  createdAt : Instant
  updatedAt : Instant

/-- The tables that a search reads, with no id twice and no more rows than can be counted. How a
text is compared with a pattern is up to the database. -/
structure Library where
  questions : List Library.Question
  answers : List Library.Answer
  like : String → String → Bool
  question_ids : questions.Pairwise (·.id ≠ ·.id)
  answer_ids : answers.Pairwise (·.id ≠ ·.id)
  countable : ((questions.length + answers.length : Nat) : Int) ≤ Text.Width.int64.hi

/-! ## Hits -/

/-- What a search can find: a question, or an answer to a question. -/
inductive Hit where
  | question (q : Library.Question)
  | answer (a : Library.Answer) (q : Library.Question)

namespace Hit

def branch : Hit → Branch
  | question _ => .question
  | answer _ _ => .answer

def kind : Hit → ObjectKind
  | question _ => .question
  | answer _ _ => .answer

def id : Hit → String
  | question q => q.id
  | answer a _ => a.id

/-- The question found, or the question of the answer found. -/
def asked : Hit → Library.Question
  | question q | answer _ q => q

def title (h : Hit) : String := h.asked.row.title

def content : Hit → String
  | question q => q.row.content
  | answer a _ => a.row.content

def userId : Hit → String
  | question q => q.row.userId
  | answer a _ => a.row.userId

def votes : Hit → Int
  | question q => q.row.votes
  | answer a _ => a.row.votes

/-- The number of answers of a question; an answer has none. -/
def answerCount : Hit → Int
  | question q => q.row.answers
  | answer _ _ => 0

/-- The question has an accepted answer, or the answer is accepted. -/
def accepted : Hit → Bool
  | question q => q.row.accepted.isSome
  | answer a _ => a.row.accepted

def createdAt : Hit → Instant
  | question q => q.createdAt
  | answer a _ => a.createdAt

def updatedAt : Hit → Instant
  | question q => q.updatedAt
  | answer a _ => a.updatedAt

/-- Neither the object nor its question is deleted. -/
def live : Hit → Bool
  | question q => q.row.status ≠ .deleted
  | answer a q => !a.row.deleted && q.row.status ≠ .deleted

/-- The start of the text. -/
def excerpt (h : Hit) : String := String.ofList (h.content.toList.take 200)

/-- How a hit is shown. -/
def item (h : Hit) : SearchItem where
  objectId := h.id
  kind := h.kind
  questionId := h.asked.id
  title := h.title
  excerpt := h.excerpt
  userId := h.userId
  voteCount := h.votes
  answerCount := h.answerCount
  accepted := h.accepted
  createdAt := h.createdAt
  updatedAt := h.updatedAt

theorem branch_eq_of_kind_eq {h h' : Hit} (hk : h.kind = h'.kind) : h.branch = h'.branch := by
  cases h <;> cases h' <;> first | rfl | cases hk

end Hit

/-! ## What matches -/

namespace Library

variable (l : Library)

/-- What a criterion asks of a hit. -/
def holds (h : Hit) : Criterion → Bool
  | .word t | .phrase t =>
    match h with
    | .question q => l.like q.row.title (likePattern t) || l.like q.row.content (likePattern t)
    | .answer a _ => l.like a.row.content (likePattern t)
  | .tag t => h.asked.tags.contains t
  | .user id => h.userId = id
  | .minScore n => n ≤ h.votes
  | .minAnswers n =>
    match h with
    | .question q => n ≤ q.row.answers
    | .answer _ _ => true
  | .hasAccepted yes =>
    match h with
    | .question q => q.row.accepted.isSome = yes
    | .answer _ _ => true
  | .accepted yes =>
    match h with
    | .question _ => true
    | .answer a _ => a.row.accepted = yes

theorem holds_of_condition?_eq_none {h : Hit} {c : Criterion} (hc : c.condition? h.branch = none) :
    l.holds h c = true := by
  cases h with
  | question q =>
    cases c with
    | accepted yes => rfl
    | hasAccepted yes => cases yes <;> cases hc
    | _ => cases hc
  | answer a q =>
    cases c with
    | minAnswers n => rfl
    | hasAccepted yes => rfl
    | _ => cases hc

/-- The question of an id. -/
def question? (id : String) : Option Question := l.questions.find? (·.id = id)

/-- What a selection takes, whatever it asks for: an answer is taken with its question. -/
def candidates : Branch → List Hit
  | .question => l.questions.map .question
  | .answer => l.answers.filterMap fun a => (l.question? a.row.questionId).map (.answer a)

/-- All that matches a filter. -/
def hits (f : SearchFilter) : List Hit :=
  ((branches f.scope).flatMap l.candidates).filter fun h => h.live && (criteria f).all (l.holds h)

/-- How many words the title has. -/
def relevance (words : List String) (h : Hit) : Int :=
  words.countP fun w => l.like h.title (likePattern w)

/-- The row of a hit. -/
def row (words : List String) (h : Hit) : Row :=
  [("object_id", .text h.id), ("object_type", .text h.kind.name), ("question_id", .text h.asked.id),
    ("title", .text h.title), ("excerpt", .text h.excerpt), ("user_id", .text h.userId),
    ("vote_count", .int64 h.votes), ("answer_count", .int64 h.answerCount),
    ("accepted", .bool h.accepted), ("created_at", .instant h.createdAt),
    ("updated_at", .instant h.updatedAt), ("relevance", .int .int32 (l.relevance words h))]

/-- **The row of a hit** is read as what is shown of it. -/
theorem ofRow_row (words : List String) (h : Hit) : SearchItem.ofRow (l.row words h) = .ok h.item := by
  cases h <;> rfl

theorem branch_of_mem_candidates {b : Branch} {h : Hit} (hh : h ∈ l.candidates b) :
    h.branch = b := by
  cases b with
  | question =>
    obtain ⟨q, -, rfl⟩ := List.mem_map.mp hh
    rfl
  | answer =>
    obtain ⟨a, -, ha⟩ := List.mem_filterMap.mp hh
    obtain ⟨q, -, rfl⟩ := Option.map_eq_some_iff.mp ha
    rfl

/-- **What is found** is taken by a selection of the search, and meets all that is asked of it there:
what is no condition of a selection asks for nothing. -/
theorem mem_hits {f : SearchFilter} {h : Hit} :
    h ∈ l.hits f ↔ h.branch ∈ branches f.scope ∧ h ∈ l.candidates h.branch ∧ h.live = true ∧
      ∀ c ∈ criteria f, (c.condition? h.branch).isSome → l.holds h c = true := by
  have htaken : h ∈ (branches f.scope).flatMap l.candidates ↔
      h.branch ∈ branches f.scope ∧ h ∈ l.candidates h.branch := by
    rw [List.mem_flatMap]
    constructor
    · rintro ⟨b, hb, hh⟩
      obtain rfl := l.branch_of_mem_candidates hh
      exact ⟨hb, hh⟩
    · rintro ⟨hb, hh⟩
      exact ⟨_, hb, hh⟩
  have hasked : (∀ c ∈ criteria f, l.holds h c = true) ↔
      ∀ c ∈ criteria f, (c.condition? h.branch).isSome → l.holds h c = true := by
    refine forall₂_congr fun c _ => ⟨fun hc _ => hc, fun hc => ?_⟩
    cases hcond : c.condition? h.branch with
    | none => exact l.holds_of_condition?_eq_none hcond
    | some g => exact hc (by rw [hcond]; rfl)
  rw [hits, List.mem_filter, htaken, Bool.and_eq_true, List.all_eq_true, hasked, and_assoc]

/-! ## Nothing is found twice -/

theorem pairwise_candidates (b : Branch) : (l.candidates b).Pairwise (·.id ≠ ·.id) := by
  cases b with
  | question => exact List.pairwise_map.mpr l.question_ids
  | answer =>
    rw [candidates, List.pairwise_filterMap]
    refine l.answer_ids.imp fun {a a'} hne h hh h' hh' => ?_
    obtain ⟨q, -, rfl⟩ := Option.map_eq_some_iff.mp hh
    obtain ⟨q', -, rfl⟩ := Option.map_eq_some_iff.mp hh'
    exact hne

theorem pairwise_branches (scope : SearchScope) : (branches scope).Pairwise (· ≠ ·) := by
  cases scope <;> decide

theorem pairwise_hits (f : SearchFilter) :
    (l.hits f).Pairwise fun h h' => ¬ (h.branch = h'.branch ∧ h.id = h'.id) := by
  refine List.Pairwise.filter _ (List.pairwise_flatMap.mpr ⟨fun b _ => ?_, ?_⟩)
  · exact (l.pairwise_candidates b).imp fun hne h => hne h.2
  · refine (pairwise_branches f.scope).imp fun hne h hh h' hh' heq => hne ?_
    rw [← l.branch_of_mem_candidates hh, ← l.branch_of_mem_candidates hh', heq.1]

/-- **Nothing is found twice.** -/
theorem nodup_items (f : SearchFilter) : ((l.hits f).map Hit.item).Nodup := by
  refine List.pairwise_map.mpr ((l.pairwise_hits f).imp fun hne heq => hne ⟨?_, ?_⟩)
  · exact Hit.branch_eq_of_kind_eq (congrArg SearchItem.kind heq)
  · exact congrArg SearchItem.objectId heq

theorem length_hits_le (f : SearchFilter) : ((l.hits f).length : Int) ≤ Text.Width.int64.hi := by
  have hbranches : ((branches f.scope).flatMap l.candidates).length ≤
      l.questions.length + l.answers.length := by
    have hquestions : (l.candidates .question).length = l.questions.length := List.length_map _
    have hanswers : (l.candidates .answer).length ≤ l.answers.length := List.length_filterMap_le _ _
    cases f.scope <;> simp [branches] <;> omega
  have hfilter : (l.hits f).length ≤ ((branches f.scope).flatMap l.candidates).length :=
    List.length_filter_le _ _
  have hcountable := l.countable
  omega

end Library

/-! ## Orders -/

/-- The columns that an order sorts by, the first of them first. -/
def sortColumns : SearchOrder → List String
  | .relevance => ["relevance", "vote_count", "created_at"]
  | .newest => ["created_at"]
  | .active => ["updated_at"]
  | .score => ["vote_count", "created_at"]

/-- **The clause of an order** names its columns, and sorts the greatest values first. -/
theorem orderClause_eq (order : SearchOrder) :
    orderClause order = " ORDER BY " ++
      ", ".intercalate ((sortColumns order).map fun c => "t." ++ c ++ " DESC") := by
  cases order <;> rfl

/-- What values are compared by. -/
def Sql.Value.sortKey : Value → List Int
  | .int _ n => [n]
  | .instant t => [t.seconds, t.nanos]
  | _ => []

/-- What the rows of an order are compared by. -/
def Sql.Row.sortKey (order : SearchOrder) (r : Row) : List Int :=
  (sortColumns order).flatMap fun c => (r.lookup c).toList.flatMap Value.sortKey

end Forum
