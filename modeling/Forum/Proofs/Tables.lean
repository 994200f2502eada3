import Forum.Sql.Statement
import Mathlib.Data.Set.Card

/-!
# Tables

The tables of questions, answers, comments, votes, reports, badges and awards, and what the
statements do to their rows. Times are left out, and the table of users, which nothing here changes.

* `Tables.Key`, `Tables.Row`, `Tables`: the rows of all tables by their keys;
* `Tables.question?`, `answer?`, `vote?`, `badge?`, `count?`: what is read of them;
* `Tables.RowOp`, `Tables.rowOp`: what a statement does to rows;
* `Tables.outcome`: what a statement answers, by the rows that it has found or made;
* `Tables.RowOp.apply`: a statement on tables that nobody else uses.
-/

namespace Forum

namespace Tables

open Sql

/-! ## Rows -/

/-- The key of a row in its table. -/
inductive Key where
  | question (id : String)
  | answer (id : String)
  | comment (id : String)
  | vote (userId objectId : String)
  | report (id : Int)
  | badge (id : Int)
  | award (id : Int)
deriving DecidableEq

/-- The key of a post. -/
def Key.post : Post → String → Key
  | .question, id => question id
  | .answer, id => answer id
  | .comment, id => comment id

theorem Key.post_ne_vote {p : Post} {id user object : String} :
    Key.post p id ≠ .vote user object := by
  cases p <;> simp [post]

theorem Key.post_inj {p q : Post} {id id' : String} :
    Key.post p id = Key.post q id' ↔ p = q ∧ id = id' := by
  cases p <;> cases q <;> simp [post]

/-- A question, with what it counts and the id of its accepted answer. -/
structure QuestionRow extends NewQuestion where
  status : QuestionStatus := .open_
  pinned : Bool := false
  votes : Int := 0
  answers : Int := 0
  accepted : Option String := none
deriving DecidableEq

/-- An answer. -/
structure AnswerRow extends NewAnswer where
  deleted : Bool := false
  accepted : Bool := false
  votes : Int := 0
deriving DecidableEq

/-- A comment. -/
structure CommentRow extends NewComment where
  deleted : Bool := false
  votes : Int := 0
deriving DecidableEq

/-- A row. Of a badge it is the number of its awards that statements change. -/
inductive Row where
  | question (r : QuestionRow)
  | answer (r : AnswerRow)
  | comment (r : CommentRow)
  | vote (kind : ObjectKind) (direction : Int)
  | report (r : NewReport)
  | badge (awards : Int)
  | award (g : Grant)
deriving DecidableEq

/-! ## Changes of rows

A change is a partial function: what becomes of a row, or none if the row does not match. -/

/-- One more answer. -/
def QuestionRow.countAnswer (r : QuestionRow) : QuestionRow := { r with answers := r.answers + 1 }

/-- One answer less, which is then not the accepted one. -/
def QuestionRow.uncountAnswer (a : String) (r : QuestionRow) : QuestionRow :=
  { r with
    answers := max (r.answers - 1) 0
    accepted := if r.accepted = some a then none else r.accepted }

/-- The answer deleted. -/
def AnswerRow.remove (r : AnswerRow) : AnswerRow := { r with deleted := true, accepted := false }

/-- The answer no longer accepted, if it is one of the question that is. -/
def AnswerRow.clear (q : String) (r : AnswerRow) : Option AnswerRow :=
  if r.questionId = q ∧ r.accepted then some { r with accepted := false } else none

/-- The answer accepted, if it is one of the question that is not deleted. -/
def AnswerRow.mark (q : String) (r : AnswerRow) : Option AnswerRow :=
  if r.questionId = q ∧ r.deleted = false then some { r with accepted := true } else none

namespace Row

def question? : Row → Option QuestionRow
  | question r => some r
  | _ => none

def answer? : Row → Option AnswerRow
  | answer r => some r
  | _ => none

def comment? : Row → Option CommentRow
  | comment r => some r
  | _ => none

/-- The direction of a vote. -/
def vote? : Row → Option Int
  | vote _ v => some v
  | _ => none

def badge? : Row → Option Int
  | badge n => some n
  | _ => none

/-- The votes that a post counts. -/
def count? : Post → Row → Option Int
  | .question, r => r.question?.map QuestionRow.votes
  | .answer, r => r.answer?.map AnswerRow.votes
  | .comment, r => r.comment?.map CommentRow.votes

def onQuestion (f : QuestionRow → Option QuestionRow) (r : Row) : Option Row :=
  (r.question?.bind f).map question

def onAnswer (f : AnswerRow → Option AnswerRow) (r : Row) : Option Row :=
  (r.answer?.bind f).map answer

def onComment (f : CommentRow → Option CommentRow) (r : Row) : Option Row :=
  (r.comment?.bind f).map comment

def onBadge (f : Int → Option Int) (r : Row) : Option Row := (r.badge?.bind f).map badge

/-- A change of a question that is not deleted. -/
def editQuestion (f : QuestionRow → QuestionRow) : Row → Option Row :=
  onQuestion fun r => if r.status = .deleted then none else some (f r)

/-- A change of an answer that is not deleted. -/
def editAnswer (f : AnswerRow → AnswerRow) : Row → Option Row :=
  onAnswer fun r => if r.deleted then none else some (f r)

/-- A change of a comment that is not deleted. -/
def editComment (f : CommentRow → CommentRow) : Row → Option Row :=
  onComment fun r => if r.deleted then none else some (f r)

/-- More votes of a post. -/
def addVotes (d : Int) : Post → Row → Option Row
  | .question => onQuestion fun r => some { r with votes := r.votes + d }
  | .answer => onAnswer fun r => some { r with votes := r.votes + d }
  | .comment => onComment fun r => some { r with votes := r.votes + d }

/-- One more award of a badge. -/
def countAward : Row → Option Row := onBadge fun n => some (n + 1)

variable {v : Option Row} {w : Row}

theorem question?_eq_some {r : QuestionRow} : w.question? = some r ↔ w = question r := by
  cases w <;> simp [question?]

theorem answer?_eq_some {r : AnswerRow} : w.answer? = some r ↔ w = answer r := by
  cases w <;> simp [answer?]

theorem badge?_eq_some {n : Int} : w.badge? = some n ↔ w = badge n := by
  cases w <;> simp [badge?]

theorem bind_onQuestion {f : QuestionRow → Option QuestionRow} :
    v.bind (onQuestion f) = ((v.bind question?).bind f).map question := by
  cases v <;> rfl

theorem bind_onAnswer {f : AnswerRow → Option AnswerRow} :
    v.bind (onAnswer f) = ((v.bind answer?).bind f).map answer := by
  cases v <;> rfl

theorem bind_onBadge {f : Int → Option Int} :
    v.bind (onBadge f) = ((v.bind badge?).bind f).map badge := by
  cases v <;> rfl

theorem bind_onQuestion_eq_some {f : QuestionRow → Option QuestionRow} :
    v.bind (onQuestion f) = some w ↔
      ∃ r r', v = some (question r) ∧ f r = some r' ∧ w = question r' := by
  simp only [bind_onQuestion, Option.bind_eq_some_iff, Option.map_eq_some_iff, question?_eq_some]
  grind

theorem bind_onAnswer_eq_some {f : AnswerRow → Option AnswerRow} :
    v.bind (onAnswer f) = some w ↔
      ∃ r r', v = some (answer r) ∧ f r = some r' ∧ w = answer r' := by
  simp only [bind_onAnswer, Option.bind_eq_some_iff, Option.map_eq_some_iff, answer?_eq_some]
  grind

theorem bind_editQuestion_eq_some {f : QuestionRow → QuestionRow} :
    v.bind (editQuestion f) = some w ↔
      ∃ r, v = some (question r) ∧ r.status ≠ .deleted ∧ w = question (f r) := by
  rw [editQuestion, bind_onQuestion_eq_some]
  grind

theorem bind_editAnswer_eq_some {f : AnswerRow → AnswerRow} :
    v.bind (editAnswer f) = some w ↔
      ∃ r, v = some (answer r) ∧ r.deleted = false ∧ w = answer (f r) := by
  rw [editAnswer, bind_onAnswer_eq_some]
  grind

theorem bind_countAward_eq_some :
    v.bind countAward = some w ↔ ∃ n, v = some (badge n) ∧ w = badge (n + 1) := by
  simp only [countAward, bind_onBadge, Option.bind_eq_some_iff, Option.map_eq_some_iff,
    badge?_eq_some]
  grind

theorem count?_addVotes {p : Post} {d : Int} {v : Row} (h : addVotes d p v = some w) :
    ∃ n, v.count? p = some n ∧ w.count? p = some (n + d) := by
  cases p <;> cases v <;>
    simp [addVotes, onQuestion, onAnswer, onComment, question?, answer?, comment?] at h <;>
    subst h <;> simp [count?, question?, answer?, comment?]

theorem addVotes_eq_none {p : Post} {d : Int} {v : Row} :
    addVotes d p v = none ↔ v.count? p = none := by
  cases p <;> cases v <;>
    simp [addVotes, onQuestion, onAnswer, onComment, count?, question?, answer?, comment?]

end Row

/-! ## Statements -/

/-- What a statement does to rows.

* `alter`: a row is found by its key, and changed if it matches;
* `delete`: a row is taken away;
* `make`: a row is made from what is there, if anything is, or refused; the rows it refers to must
  be there;
* `sweep`: all rows that match are changed. -/
inductive RowOp where
  | nothing
  | alter (k : Key) (m : Row → Option Row)
  | delete (k : Key)
  | make (k : Key) (needs : List Key) (m : Option Row → Option Row)
  | sweep (m : Key → Row → Option Row)

/-- A new row, which is refused if its key is taken. -/
def RowOp.insert (k : Key) (needs : List Key) (v : Row) : RowOp :=
  make k needs fun
    | none => some v
    | some _ => none

/-- The accepted answers of a question, which are no longer accepted. -/
def clearing (q : String) : Key → Row → Option Row
  | .answer _ => Row.onAnswer (AnswerRow.clear q)
  | _ => fun _ => none

theorem bind_clearing_eq_some {q : String} {k : Key} {v : Option Row} {w : Row} :
    v.bind (clearing q k) = some w ↔ ∃ a r, k = .answer a ∧ v = some (.answer r) ∧
      r.questionId = q ∧ r.accepted = true ∧ w = .answer { r with accepted := false } := by
  cases k with
  | answer a =>
    rw [clearing, Row.bind_onAnswer_eq_some]
    simp only [AnswerRow.clear]
    grind
  | _ => simp [clearing]

theorem bind_mark_eq_some {q : String} {v : Option Row} {w : Row} :
    v.bind (Row.onAnswer (AnswerRow.mark q)) = some w ↔ ∃ r, v = some (.answer r) ∧
      r.questionId = q ∧ r.deleted = false ∧ w = .answer { r with accepted := true } := by
  rw [Row.bind_onAnswer_eq_some]
  simp only [AnswerRow.mark]
  grind

/-- What a statement does; `n` is the next number of its sequence. -/
def rowOp (n : Int) : Statement → Option RowOp
  | .nextId _ => some .nothing
  | .insertQuestion id q => some (.insert (.question id) [] (.question { q with }))
  | .editQuestion id t c =>
    some (.alter (.question id) (Row.editQuestion ({ · with title := t, content := c })))
  | .setQuestionStatus id s =>
    some (.alter (.question id) (Row.editQuestion ({ · with status := s })))
  | .setQuestionPinned id p =>
    some (.alter (.question id) (Row.editQuestion ({ · with pinned := p })))
  | .countAnswer id => some (.alter (.question id) (Row.editQuestion .countAnswer))
  | .insertAnswer id a =>
    some (.insert (.answer id) [.question a.questionId] (.answer { a with }))
  | .editAnswer id c => some (.alter (.answer id) (Row.editAnswer ({ · with content := c })))
  | .removeAnswer id => some (.alter (.answer id) (Row.editAnswer .remove))
  | .uncountAnswer q a =>
    some (.alter (.question q) (Row.onQuestion fun r => some (r.uncountAnswer a)))
  | .clearAccepted q => some (.sweep (clearing q))
  | .markAccepted a q => some (.alter (.answer a) (Row.onAnswer (AnswerRow.mark q)))
  | .setAccepted q a =>
    some (.alter (.question q) (Row.onQuestion fun r => some { r with accepted := some a }))
  | .insertComment id c =>
    some (.insert (.comment id) [.question c.questionId] (.comment { c with }))
  | .removeComment id =>
    some (.alter (.comment id) (Row.editComment ({ · with deleted := true })))
  | .insertReport r => some (.insert (.report n) [] (.report r))
  | .lockVote u o => some (.alter (.vote u o) fun r => r.vote?.map fun _ => r)
  | .deleteVote u o => some (.delete (.vote u o))
  | .putVote u o k v => some (.make (.vote u o) [] fun
    | some (.vote k' _) => some (.vote k' v)
    | _ => some (.vote k v))
  | .addToVotes p d o => some (.alter (.post p o) (Row.addVotes d p))
  | .insertAward g => some (.insert (.award n) [.badge g.badgeId] (.award g))
  | .countAward b => some (.alter (.badge b) Row.countAward)
  | _ => none

/-- The columns that a statement returns of a row that it has found or made. -/
def returned (n : Int) : Statement → Row → Option Sql.Row
  | .removeAnswer _, .answer r => some [("question_id", .text r.questionId)]
  | .lockVote _ _, r => r.vote?.map fun v => [("vote", .int .int16 v)]
  | .addToVotes p _ _, r => (r.count? p).map fun c => [("vote_count", .int64 c)]
  | .insertReport _, _ | .insertAward _, _ => some [("id", .int64 n)]
  | _, _ => none

/-- What a statement answers. -/
def outcome (n : Int) (s : Statement) (found : List Row) (affected : Nat) : Outcome where
  rows := match s with
    | .nextId _ => [[("nextval", .int64 n)]]
    | _ => found.filterMap (returned n s)
  affected

end Tables

/-- The rows of all tables, by their keys. -/
abbrev Tables := Tables.Key → Option Tables.Row

namespace Tables

open Sql

variable (T : Tables)

def question? (id : String) : Option QuestionRow := (T (.question id)).bind Row.question?

def answer? (id : String) : Option AnswerRow := (T (.answer id)).bind Row.answer?

/-- The direction of a user's vote on an object. -/
def vote? (userId objectId : String) : Option Int := (T (.vote userId objectId)).bind Row.vote?

/-- The number of awards that a badge counts. -/
def badge? (id : Int) : Option Int := (T (.badge id)).bind Row.badge?

/-- The number of votes that a post counts. -/
def count? (p : Post) (id : String) : Option Int := (T (.post p id)).bind (Row.count? p)

variable {T}

theorem question?_eq_some {id : String} {r : QuestionRow} :
    question? T id = some r ↔ T (.question id) = some (.question r) := by
  simp [question?, Option.bind_eq_some_iff, Row.question?_eq_some]

theorem answer?_eq_some {id : String} {r : AnswerRow} :
    answer? T id = some r ↔ T (.answer id) = some (.answer r) := by
  simp [answer?, Option.bind_eq_some_iff, Row.answer?_eq_some]

theorem badge?_eq_some {id n : Int} :
    badge? T id = some n ↔ T (.badge id) = some (.badge n) := by
  simp [badge?, Option.bind_eq_some_iff, Row.badge?_eq_some]

variable (T)

/-! ## Tables that nobody else uses -/

/-- The tables with a row changed, if it is there and matches. -/
def alter (k : Key) (m : Row → Option Row) : Tables :=
  Function.update T k (((T k).bind m).or (T k))

variable {T} in
theorem alter_of_some {k : Key} {m : Row → Option Row} {v : Row} (h : (T k).bind m = some v) :
    alter T k m = Function.update T k (some v) := by
  rw [alter, h, Option.some_or]

variable {T} in
theorem alter_of_none {k : Key} {m : Row → Option Row} (h : (T k).bind m = none) :
    alter T k m = T := by
  rw [alter, h, Option.none_or, Function.update_eq_self]

variable {T} in
theorem alter_of_ne {k k' : Key} {m : Row → Option Row} (h : k' ≠ k) : alter T k m k' = T k' :=
  Function.update_of_ne h ..

section Views

variable {T}

theorem read_alter {α : Type} {read : Row → Option α} {make : α → Row}
    (h : ∀ w a, read w = some a ↔ w = make a) {f : α → Option α} {k k' : Key} :
    (alter T k (fun w => ((read w).bind f).map make) k').bind read =
      if k' = k then (((T k).bind read).bind f).or ((T k).bind read) else (T k').bind read := by
  have hread : ∀ a, read (make a) = some a := fun a => (h _ _).mpr rfl
  by_cases hk : k' = k
  · subst hk
    rw [if_pos rfl, alter, Function.update_self]
    cases hT : T k' with
    | none => simp
    | some w =>
      cases hw : read w with
      | none => simp [hw]
      | some a =>
        cases hf : f a with
        | none => simp [hw, hf]
        | some a' => simp [hw, hf, hread]
  · rw [if_neg hk, alter_of_ne hk]

theorem question?_alter {f : QuestionRow → Option QuestionRow} {q q' : String} :
    question? (alter T (.question q) (Row.onQuestion f)) q' =
      if q' = q then ((question? T q).bind f).or (question? T q) else question? T q' := by
  refine (read_alter fun _ _ => Row.question?_eq_some).trans ?_
  simp only [Key.question.injEq]
  rfl

theorem badge?_alter {f : Int → Option Int} {b b' : Int} :
    badge? (alter T (.badge b) (Row.onBadge f)) b' =
      if b' = b then ((badge? T b).bind f).or (badge? T b) else badge? T b' := by
  refine (read_alter fun _ _ => Row.badge?_eq_some).trans ?_
  simp only [Key.badge.injEq]
  rfl

end Views

/-- What a statement makes of tables that nobody else uses: the rows that it has found or made, how
many there are, and the tables after it; or none if it is refused. -/
noncomputable def RowOp.apply (T : Tables) : RowOp → Option ((List Row × Nat) × Tables)
  | .nothing => some (([], 0), T)
  | .alter k m =>
    let found := ((T k).bind m).toList
    some ((found, found.length), Tables.alter T k m)
  | .delete k => some (([], (T k).toList.length), Function.update T k none)
  | .make k needs m =>
    if ∀ k ∈ needs, T k ≠ none then
      (m (T k)).map fun v => (([v], 1), Function.update T k (some v))
    else none
  | .sweep m =>
    some (([], {k | (T k).bind (m k) ≠ none}.ncard), fun k => ((T k).bind (m k)).or (T k))

/-- A statement on tables that nobody else uses, or none if it is refused. -/
noncomputable def execute (n : Int) (s : Statement) : Option (Outcome × Tables) :=
  (rowOp n s).bind fun op => (op.apply T).map fun ((found, affected), T') =>
    (outcome n s found affected, T')

end Tables

end Forum
