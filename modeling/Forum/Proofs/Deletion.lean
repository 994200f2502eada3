import Forum.Proofs.Acceptance
import Forum.Proofs.Connection

/-!
# Deleted posts

A deleted post keeps its row, which is marked as deleted. No statement takes the mark away or changes
what the post shows, and what would change the post finds no row to change.

* `Tables.Face`, `Tables.face?`: what a post shows, and whether it is deleted;
* `Row.Misses`, `Row.Leaves`, `RowOp.Spares`, **`spares_rowOp`**: no statement changes what a deleted
  post shows;
* `Write.target?`: the post that a change needs and that must not be deleted;
* **`refuses_change`**: what becomes of a change whose post is deleted;
* **`deleted_stays`**: deletions are final.
-/

namespace Forum

/-- The post that a change needs and that must not be deleted. -/
def Write.target? : Write → Option (Post × String)
  | updateQuestion id _ _ | deleteQuestion id | updateQuestionStatus id _
  | setQuestionPinned id _ => some (.question, id)
  | createAnswer a => some (.question, a.questionId)
  | updateAnswer id _ | deleteAnswer id | acceptAnswer _ id => some (.answer, id)
  | deleteComment id => some (.comment, id)
  | createQuestion _ | createComment _ | addReport _ | recordVote _ _ _ => none

namespace Tables

open Sql Storage

/-! ## What a post shows -/

/-- What a post shows, and whether it is deleted. Only questions have titles and can be pinned. -/
structure Face where
  title : Option String := none
  content : String
  pinned : Bool := false
  deleted : Bool
deriving DecidableEq

namespace Row

/-- What the row of a post shows. -/
def face? : Row → Option Face
  | question r => some ⟨some r.title, r.content, r.pinned, r.status = .deleted⟩
  | answer r => some { content := r.content, deleted := r.deleted }
  | comment r => some { content := r.content, deleted := r.deleted }
  | _ => none

/-- A change of rows does not change what a deleted post shows. -/
def Leaves (m : Row → Option Row) : Prop :=
  ∀ v w f, v.face? = some f → f.deleted = true → m v = some w → w.face? = some f

/-- A change of rows matches no deleted post. -/
def Misses (m : Row → Option Row) : Prop :=
  ∀ v f, v.face? = some f → f.deleted = true → m v = none

theorem Misses.leaves {m : Row → Option Row} (h : Misses m) : Leaves m := by
  intro v w f hf hd hw
  rw [h v f hf hd] at hw
  cases hw

theorem misses_editQuestion {g : QuestionRow → QuestionRow} : Misses (editQuestion g) := by
  intro v f hf hd
  cases v with
  | question r =>
    cases hf
    have hstatus : r.status = .deleted := of_decide_eq_true hd
    simp [editQuestion, onQuestion, question?, hstatus]
  | _ => rfl

theorem misses_editAnswer {g : AnswerRow → AnswerRow} : Misses (editAnswer g) := by
  intro v f hf hd
  cases v with
  | answer r =>
    cases hf
    have hdeleted : r.deleted = true := hd
    simp [editAnswer, onAnswer, answer?, hdeleted]
  | _ => rfl

theorem misses_editComment {g : CommentRow → CommentRow} : Misses (editComment g) := by
  intro v f hf hd
  cases v with
  | comment r =>
    cases hf
    have hdeleted : r.deleted = true := hd
    simp [editComment, onComment, comment?, hdeleted]
  | _ => rfl

theorem misses_mark {q : String} : Misses (onAnswer (AnswerRow.mark q)) := by
  intro v f hf hd
  cases v with
  | answer r =>
    cases hf
    have hdeleted : r.deleted = true := hd
    simp [onAnswer, answer?, AnswerRow.mark, hdeleted]
  | _ => rfl

theorem leaves_onQuestion {g : QuestionRow → QuestionRow}
    (h : ∀ r, (question (g r)).face? = (question r).face?) :
    Leaves (onQuestion fun r => some (g r)) := by
  intro v w f hf _ hw
  obtain ⟨r, _, hv, hr, rfl⟩ := bind_onQuestion_eq_some (v := some v).mp hw
  cases hv
  cases hr
  rw [h, hf]

theorem leaves_addVotes {d : Int} (p : Post) : Leaves (addVotes d p) := by
  intro v w f hf _ hw
  cases p <;> cases v <;> cases hw <;> exact hf

theorem leaves_clearing {q : String} (k : Key) : Leaves (clearing q k) := by
  intro v w f hf _ hw
  obtain ⟨a, r, -, hv, -, -, rfl⟩ := bind_clearing_eq_some (v := some v).mp hw
  cases hv
  exact hf

theorem leaves_countAward : Leaves countAward := by
  intro v w f hf _ hw
  obtain ⟨n, hv, -⟩ := bind_countAward_eq_some (v := some v).mp hw
  cases hv
  cases hf

theorem leaves_look : Leaves fun v => v.vote?.map fun _ => v := by
  intro v w f hf _ hw
  obtain ⟨_, -, rfl⟩ := Option.map_eq_some_iff.mp hw
  exact hf

end Row

/-- What a statement does to rows spares what deleted posts show: no post is taken away or made anew,
and none that is deleted changes. -/
def RowOp.Spares : RowOp → Prop
  | .nothing => True
  | .alter _ m => Row.Leaves m
  | .delete k => ∀ p id, Key.post p id ≠ k
  | .make k _ m => (∀ v, m (some v) = none) ∨ ∀ p id, Key.post p id ≠ k
  | .sweep m => ∀ k, Row.Leaves (m k)

theorem RowOp.spares_insert {k : Key} {needs : List Key} {v : Row} :
    (RowOp.insert k needs v).Spares := .inl fun _ => rfl

/-- **No statement changes what a deleted post shows.** -/
theorem spares_rowOp {n : Int} {st : Statement} {op : RowOp} (h : rowOp n st = some op) :
    op.Spares := by
  cases st <;> cases h
  case nextId => trivial
  case insertQuestion => exact RowOp.spares_insert
  case editQuestion => exact Row.misses_editQuestion.leaves
  case setQuestionStatus => exact Row.misses_editQuestion.leaves
  case setQuestionPinned => exact Row.misses_editQuestion.leaves
  case countAnswer => exact Row.misses_editQuestion.leaves
  case insertAnswer => exact RowOp.spares_insert
  case editAnswer => exact Row.misses_editAnswer.leaves
  case removeAnswer => exact Row.misses_editAnswer.leaves
  case uncountAnswer => exact Row.leaves_onQuestion fun _ => rfl
  case clearAccepted => exact Row.leaves_clearing
  case markAccepted => exact Row.misses_mark.leaves
  case setAccepted => exact Row.leaves_onQuestion fun _ => rfl
  case insertComment => exact RowOp.spares_insert
  case removeComment => exact Row.misses_editComment.leaves
  case insertReport => exact RowOp.spares_insert
  case lockVote => exact Row.leaves_look
  case deleteVote => exact fun _ _ => Key.post_ne_vote
  case putVote => exact .inr fun _ _ => Key.post_ne_vote
  case addToVotes p _ _ => exact Row.leaves_addVotes p
  case insertAward => exact RowOp.spares_insert
  case countAward => exact Row.leaves_countAward

/-! ## The tables -/

/-- What a post shows. -/
def face? (T : Tables) (p : Post) (id : String) : Option Face := (T (.post p id)).bind Row.face?

variable {T : Tables} {p : Post} {id : String} {f : Face}

theorem face?_congr {T' : Tables} (h : T' (.post p id) = T (.post p id)) :
    face? T' p id = face? T p id := by
  rw [face?, face?, h]

theorem face?_or {T' : Tables} {m : Row → Option Row} (hm : Row.Leaves m) (hd : f.deleted = true)
    (hf : face? T p id = some f)
    (h : T' (.post p id) = ((T (.post p id)).bind m).or (T (.post p id))) :
    face? T' p id = some f := by
  obtain ⟨v, hv, hface⟩ := Option.bind_eq_some_iff.mp hf
  rw [hv, Option.bind_some] at h
  rw [face?, h]
  cases hw : m v with
  | none => exact hface
  | some w => exact hm v w f hface hd hw

theorem bind_eq_none {m : Row → Option Row} (hm : Row.Misses m) (hd : f.deleted = true)
    (hf : face? T p id = some f) : (T (.post p id)).bind m = none := by
  obtain ⟨v, hv, hface⟩ := Option.bind_eq_some_iff.mp hf
  rw [hv, Option.bind_some]
  exact hm v f hface hd

theorem RowOp.Spares.keeps {op : RowOp} (h : op.Spares) (hd : f.deleted = true) :
    op.Keeps fun T => face? T p id = some f := by
  cases op with
  | nothing => exact keeps_nothing
  | alter k m =>
    refine keeps_alter fun T hT => ?_
    by_cases hk : Key.post p id = k
    · subst hk
      exact face?_or h hd hT (Function.update_self ..)
    · exact (face?_congr (alter_of_ne hk)).trans hT
  | delete k =>
    exact keeps_delete fun T hT => (face?_congr (Function.update_of_ne (h p id) ..)).trans hT
  | make k needs m =>
    refine keeps_make fun T v hT hv => ?_
    by_cases hk : Key.post p id = k
    · subst hk
      obtain ⟨w, hw, -⟩ := Option.bind_eq_some_iff.mp hT
      rcases h with h | h
      · rw [hw, h] at hv
        cases hv
      · exact absurd rfl (h p id)
    · exact (face?_congr (Function.update_of_ne hk ..)).trans hT
  | sweep m =>
    rintro T r T' hT ⟨⟩
    exact face?_or (h _) hd hT rfl

theorem keeps_face (s : Course) (hd : f.deleted = true) (w : Write) :
    s.Keeps .alone (fun T => face? T p id = some f) (change w) :=
  Course.keeps_change_of_rowOps (fun _ _ _ hop => (spares_rowOp hop).keeps hd) w

/-! ## Changes of what is deleted -/

namespace Course

variable {α : Type} {s : Course} {m : Mode}

/-- A change of a deleted post ends like this: nothing of the tables has changed, and the post is
reported as not found, unless the database has failed. -/
def Refused (s : Course) (id : String) (T : Tables) (e : ServiceError) (T' : Tables) : Prop :=
  T' = T ∧ (e = .objectNotFound id ∨ ∃ failure, s.Fails failure ∧ e = .database failure)

variable (s m) in
/-- A program is refused on these tables. -/
def Refuses (id : String) (p : Stored α) (T : Tables) : Prop :=
  s.Does m p.run T (Ends (fun _ _ => False) (s.Refused id T))

theorem refuses_missed {st : Statement} {p : Stored α} {read : Outcome → Except ServiceError α}
    {k : Key} {g : Row → Option Row} (hp : p.run = (fun r => r.bind read) <$> (send st).run)
    (hop : ∀ n, rowOp n st = some (.alter k g)) (hmissed : (T k).bind g = none)
    (hread : ∀ n, read (outcome n st [] 0) = .error (.objectNotFound id)) :
    s.Refuses m id p T := by
  have hexecute : ∀ n, execute T n st = some (outcome n st [] 0, T) := by
    intro n
    rw [execute, hop, Option.bind_some, RowOp.apply, hmissed, alter_of_none hmissed]
    rfl
  refine does_statement hp (fun e he => ⟨rfl, .inr ⟨e, he, rfl⟩⟩) (fun n hn => ?_)
    fun n o T' h => ?_
  · rw [hexecute] at hn
    cases hn
  · rw [hexecute] at h
    cases h
    refine ⟨?_, fun e he => ⟨rfl, .inr ⟨e, he.fails, rfl⟩⟩⟩
    rw [hread]
    exact ⟨rfl, .inl rfl⟩

theorem refuses_executeOn {st : Statement} {k : Key} {g : Row → Option Row}
    (hop : ∀ n, rowOp n st = some (.alter k g)) (hmissed : (T k).bind g = none) :
    s.Refuses m id (executeOn id st) T :=
  refuses_missed run_executeOn hop hmissed fun _ => rfl

theorem Refuses.bind {β : Type} {p : Stored α} {next : α → Stored β} (h : s.Refuses m id p T) :
    s.Refuses m id (p >>= next) T :=
  does_seq h fun _ _ hfalse => hfalse.elim

theorem refuses_transaction {body : Stored α}
    (h : s.Does (.within T) body.run T (Ends (fun _ _ => False) fun e _ => s.Refused id T e T)) :
    s.Refuses .alone id (transaction body) T :=
  does_transaction h (fun e he => ⟨rfl, .inr ⟨e, he, rfl⟩⟩) (fun _ he => he)
    fun _ _ _ hfalse => hfalse.elim

theorem Refuses.within {T₀ T₁ : Tables} {p : Stored α} (h : s.Refuses m id p T₁) :
    s.Does m p.run T₁ (Ends (fun _ _ => False) fun e _ => s.Refused id T₀ e T₀) := by
  refine h.mono fun r T' hr => ?_
  cases r with
  | ok a => exact hr
  | error e => exact ⟨rfl, hr.2⟩

/-- The acceptance of a deleted answer: the acceptances that it has taken back before it misses its
answer are undone. -/
theorem refuses_acceptAnswer {q : String} (hd : f.deleted = true)
    (hf : face? T .answer id = some f) : s.Refuses .alone id (acceptAnswer q id) T := by
  refine refuses_transaction (does_bind_except (does_statement run_execute
    (fun e he => ⟨rfl, .inr ⟨e, he, rfl⟩⟩) (fun n hn => ?_) fun n o T₁ h => ?_))
  · cases hn
  · cases h
    have hcleared : face? (fun k => ((T k).bind (clearing q k)).or (T k)) .answer id = some f :=
      face?_or (Row.leaves_clearing _) hd hf rfl
    refine ⟨Refuses.within (Refuses.bind ?_), fun e he => ⟨rfl, .inr ⟨e, he.fails, rfl⟩⟩⟩
    exact refuses_executeOn (fun _ => rfl) (bind_eq_none Row.misses_mark hd hcleared)

/-- **A change whose post is deleted** is refused. -/
theorem refuses_change {w : Write} (hw : w.target? = some (p, id)) (hd : f.deleted = true)
    (hf : face? T p id = some f) : s.Refuses .alone id (change w) T := by
  cases w with
  | updateQuestion | deleteQuestion | updateQuestionStatus | setQuestionPinned =>
    cases hw
    exact refuses_executeOn (fun _ => rfl) (bind_eq_none Row.misses_editQuestion hd hf)
  | createAnswer a =>
    cases hw
    exact refuses_transaction (Refuses.within (Refuses.bind
      (refuses_executeOn (fun _ => rfl) (bind_eq_none Row.misses_editQuestion hd hf))))
  | updateAnswer =>
    cases hw
    exact refuses_executeOn (fun _ => rfl) (bind_eq_none Row.misses_editAnswer hd hf)
  | deleteAnswer =>
    cases hw
    exact refuses_transaction (Refuses.within (Refuses.bind
      (refuses_missed run_fetchOn (fun _ => rfl) (bind_eq_none Row.misses_editAnswer hd hf) fun _ => rfl)))
  | acceptAnswer q a =>
    cases hw
    exact refuses_acceptAnswer hd hf
  | deleteComment =>
    cases hw
    exact refuses_executeOn (fun _ => rfl) (bind_eq_none Row.misses_editComment hd hf)
  | createQuestion | createComment | addReport | recordVote => cases hw

end Course

/-- **Deletions are final.** After any changes of content one after another, and wherever each of
them fails, whatever a deleted post shows stays as it was through any further changes, and so does
its deletion. Each change that needs the post is refused from then on: it changes nothing in any
table, and reports the post as not found unless the database fails. -/
theorem deleted_stays {s : Course} {T : Tables} {ws ws' : List Write} {c c' : Connection}
    {p : Post} {id : String} {f : Face} (h : s.changes ws { stored := T } = c)
    (hf : face? c.stored p id = some f) (hd : f.deleted = true) (h' : s.changes ws' c = c') :
    face? c'.stored p id = some f ∧
      ∀ w : Write, w.target? = some (p, id) → ∀ s' : Course,
        (s'.run (change w).run c').2.stored = c'.stored ∧
          ∃ e, (s'.run (change w).run c').1 = .error e ∧
            (e = .objectNotFound id ∨ ∃ failure, s'.Fails failure ∧ e = .database failure) := by
  have hidle : c.working = none := h ▸ Course.working_changes rfl
  have hkeeps : ∀ w ∈ ws', s.Keeps .alone (fun T => face? T p id = some f) (change w) :=
    fun w _ => keeps_face s hd w
  obtain ⟨hworking, hface⟩ := Course.keeps_changes hkeeps hidle hf
  rw [h'] at hworking hface
  refine ⟨hface, fun w hw s' => ?_⟩
  obtain ⟨T', ⟨hstored, -⟩, hend⟩ := Course.refuses_change (s := s') hw hd hface c' ⟨rfl, hworking⟩
  rw [hstored]
  cases hr : (s'.run (change w).run c').1 with
  | ok a =>
    rw [hr] at hend
    exact hend.elim
  | error e =>
    rw [hr] at hend
    exact ⟨hend.1, e, rfl, hend.2⟩

/-- A question that is deleted, and then an edit of it and another answer to it. -/
theorem deleted_stays_board :
    ∃ c c', Course.changes ⟨fun _ => .done, fun _ => 3, .other⟩
        [.deleteQuestion Acceptance.question] { stored := Acceptance.board } = c ∧
      Course.changes ⟨fun _ => .done, fun _ => 3, .other⟩
        [.updateQuestion Acceptance.question "Why not?" "Then again.",
          .createAnswer ⟨Acceptance.question, "helper", "Because."⟩] c = c' ∧
      face? c.stored .question Acceptance.question =
        some { title := some "Why?", content := "", deleted := true } ∧
      face? c'.stored .question Acceptance.question =
        some { title := some "Why?", content := "", deleted := true } := by
  have hdeleted : face? (Course.changes ⟨fun _ => .done, fun _ => 3, .other⟩
      [.deleteQuestion Acceptance.question] { stored := Acceptance.board }).stored .question
      Acceptance.question = some { title := some "Why?", content := "", deleted := true } := rfl
  exact ⟨_, _, rfl, rfl, hdeleted, (deleted_stays rfl hdeleted rfl rfl).1⟩

end Tables

end Forum
