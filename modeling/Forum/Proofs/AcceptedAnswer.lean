import Forum.Proofs.Acceptance
import Forum.Proofs.Connection

/-!
# The accepted answer

A question names its accepted answer, and the answer is marked: two copies of one fact, which
changes of content made one after another keep in step.

* `Acceptance.Agrees`: a question and its answers agree on which one is accepted;
* `Acceptance.Sound`: what every change keeps;
* **`sound_remove`**, **`sound_accept`**: it is kept where an answer is deleted or accepted;
* **`keeps_change`**: it is kept by every change, wherever it fails;
* **`accepted_answer_agrees`**: it is kept by all changes, and an acceptance that fails changes
  nothing.
-/

namespace Forum.Acceptance

open Sql Storage Tables

variable {T T' : Tables} {q a id : String}

/-! ## Agreement -/

/-- An answer is one of a question and not deleted. -/
def Live (T : Tables) (q a : String) : Prop :=
  ∃ r, T (.answer a) = some (.answer r) ∧ r.questionId = q ∧ r.deleted = false

/-- The question of every answer is there. -/
def Anchored (T : Tables) : Prop :=
  ∀ a r, T (.answer a) = some (.answer r) → (question? T r.questionId).isSome

/-- A question and its answers agree on which one is accepted, and that one is not deleted. -/
structure Agrees (T : Tables) (q : String) : Prop where
  some_iff : ∀ a, named T q = some a ↔ acceptedOf T q = {a} ∧ Live T q a
  none_iff : named T q = none ↔ acceptedOf T q = ∅

/-- What every change keeps: questions and answers agree, no deleted answer is accepted, and the
question of every answer is there. -/
structure Sound (T : Tables) : Prop where
  anchored : Anchored T
  live : ∀ a r, T (.answer a) = some (.answer r) → r.accepted = true → r.deleted = false
  names : ∀ q, (question? T q).isSome → ∀ a, a ∈ acceptedOf T q ↔ named T q = some a

theorem sound_of_agrees (h : Anchored T) (hT : ∀ q, (question? T q).isSome → Agrees T q) :
    Sound T where
  anchored := h
  live a r ha hacc := by
    have hagrees := hT r.questionId (h a r ha)
    have hmem : a ∈ acceptedOf T r.questionId := (mem_acceptedOf ha).mpr ⟨rfl, hacc⟩
    cases hn : named T r.questionId with
    | none =>
      rw [hagrees.none_iff.mp hn] at hmem
      cases hmem
    | some b =>
      obtain ⟨hone, r', hb, -, hd⟩ := (hagrees.some_iff b).mp hn
      obtain rfl : a = b := by simpa [hone] using hmem
      rw [ha] at hb
      cases hb
      exact hd
  names q hq a := by
    have hagrees := hT q hq
    constructor
    · intro ha
      cases hn : named T q with
      | none =>
        rw [hagrees.none_iff.mp hn] at ha
        cases ha
      | some b =>
        obtain ⟨hone, -⟩ := (hagrees.some_iff b).mp hn
        have hab : a = b := by simpa [hone] using ha
        rw [hab]
    · intro hn
      rw [((hagrees.some_iff a).mp hn).1]
      rfl

theorem Sound.agrees (hT : Sound T) (hq : (question? T q).isSome) : Agrees T q where
  some_iff a := by
    have hnames := hT.names q hq
    constructor
    · intro hn
      obtain ⟨r, ha, hr, hacc⟩ := (hnames a).mpr hn
      refine ⟨?_, r, ha, hr, hT.live a r ha hacc⟩
      ext b
      rw [hnames, hn, Set.mem_singleton_iff, Option.some.injEq, eq_comm]
    · rintro ⟨hone, -⟩
      rw [← hnames, hone]
      rfl
  none_iff := by
    have hnames := hT.names q hq
    constructor
    · intro hn
      ext b
      simp [hnames, hn]
    · intro hempty
      by_contra hn
      obtain ⟨b, hb⟩ := Option.ne_none_iff_exists'.mp hn
      have hmem := (hnames b).mpr hb
      rw [hempty] at hmem
      cases hmem

/-! ## Rows that do not matter -/

/-- What matters of a row: what a question names; whose an answer is, and whether it is deleted and
accepted. -/
def glance : Key → Option Tables.Row → Option (Option String) × Option (String × Bool × Bool)
  | .question _, v => ((v.bind Row.question?).map QuestionRow.accepted, none)
  | .answer _, v =>
    (none, (v.bind Row.answer?).map fun r => (r.questionId, r.deleted, r.accepted))
  | _, _ => (none, none)

theorem answer_of_glance {r' : AnswerRow}
    (h : glance (.answer a) (T' (.answer a)) = glance (.answer a) (T (.answer a)))
    (ha : T' (.answer a) = some (.answer r')) : ∃ r, T (.answer a) = some (.answer r) ∧
      r.questionId = r'.questionId ∧ r.deleted = r'.deleted ∧ r.accepted = r'.accepted := by
  have hsame := (Prod.mk.inj h).2
  rw [ha, Option.bind_some] at hsame
  obtain ⟨r, hr, he⟩ := Option.map_eq_some_iff.mp hsame.symm
  obtain ⟨v, hv, hvr⟩ := Option.bind_eq_some_iff.mp hr
  rw [Row.answer?_eq_some.mp hvr] at hv
  simp only [Prod.mk.injEq] at he
  exact ⟨r, hv, he⟩

theorem acceptedOf_subset (h : ∀ k, glance k (T' k) = glance k (T k)) :
    acceptedOf T' q ⊆ acceptedOf T q := by
  rintro a ⟨r', ha, hq, hacc⟩
  obtain ⟨r, hr, hid, -, hacc'⟩ := answer_of_glance (h (.answer a)) ha
  exact ⟨r, hr, hid.trans hq, hacc'.trans hacc⟩

/-- **Rows of which the same matters** keep questions and answers in step. -/
theorem sound_congr (h : ∀ k, glance k (T' k) = glance k (T k)) (hT : Sound T) : Sound T' := by
  have hquestion : ∀ q, (question? T' q).map QuestionRow.accepted =
      (question? T q).map QuestionRow.accepted := fun q => (Prod.mk.inj (h (.question q))).1
  have hstands : ∀ q, (question? T' q).isSome = (question? T q).isSome := fun q => by
    rw [← Option.isSome_map, hquestion, Option.isSome_map]
  have hnamed : ∀ q, named T' q = named T q := fun q => by
    have hbind : ∀ T : Tables, named T q = ((question? T q).map QuestionRow.accepted).bind id :=
      fun T => by rw [Option.bind_map, named, Function.id_comp]
    rw [hbind, hbind, hquestion]
  refine ⟨fun a r' ha => ?_, fun a r' ha hacc => ?_, fun q hq a => ?_⟩
  · obtain ⟨r, hr, hid, -, -⟩ := answer_of_glance (h (.answer a)) ha
    rw [hstands, ← hid]
    exact hT.anchored a r hr
  · obtain ⟨r, hr, -, hd, hacc'⟩ := answer_of_glance (h (.answer a)) ha
    rw [← hd]
    exact hT.live a r hr (hacc'.trans hacc)
  · rw [hnamed, ← hT.names q (hstands q ▸ hq)]
    exact ⟨fun ha => acceptedOf_subset h ha, fun ha => acceptedOf_subset (fun k => (h k).symm) ha⟩

theorem sound_update {k : Key} {v : Option Tables.Row} (hT : Sound T)
    (h : glance k v = glance k (T k)) : Sound (Function.update T k v) := by
  refine sound_congr (fun k' => ?_) hT
  by_cases hk : k' = k
  · subst hk
    rw [Function.update_self, h]
  · rw [Function.update_of_ne hk]

theorem sound_alter {k : Key} {m : Tables.Row → Option Tables.Row} (hT : Sound T)
    (h : ∀ w, (T k).bind m = some w → glance k (some w) = glance k (T k)) :
    Sound (alter T k m) := by
  cases hm : (T k).bind m with
  | none =>
    rw [alter_of_none hm]
    exact hT
  | some w =>
    rw [alter_of_some hm]
    exact sound_update hT (h w hm)

/-! ## Statements that leave acceptances alone -/

theorem sound_editQuestion {f : QuestionRow → QuestionRow} (hT : Sound T)
    (hf : ∀ r, (f r).accepted = r.accepted) :
    Sound (alter T (.question id) (Row.editQuestion f)) := by
  refine sound_alter hT fun w hw => ?_
  obtain ⟨r, hr, -, rfl⟩ := Row.bind_editQuestion_eq_some.mp hw
  rw [hr]
  simp [glance, Row.question?, hf]

theorem sound_editAnswer {content : String} (hT : Sound T) :
    Sound (alter T (.answer id) (Row.editAnswer ({ · with content := content }))) := by
  refine sound_alter hT fun w hw => ?_
  obtain ⟨r, hr, -, rfl⟩ := Row.bind_editAnswer_eq_some.mp hw
  rw [hr]
  rfl

theorem sound_addVotes {p : Post} {d : Int} (hT : Sound T) :
    Sound (alter T (.post p id) (Row.addVotes d p)) := by
  refine sound_alter hT fun w hw => ?_
  cases p with
  | question =>
    obtain ⟨r, r', hr, hr', rfl⟩ := Row.bind_onQuestion_eq_some.mp hw
    cases hr'
    rw [hr]
    rfl
  | answer =>
    obtain ⟨r, r', hr, hr', rfl⟩ := Row.bind_onAnswer_eq_some.mp hw
    cases hr'
    rw [hr]
    rfl
  | comment => rfl

theorem answer_of_update {r r' : AnswerRow} {b : String}
    (h : Function.update T (.answer a) (some (.answer r)) (.answer b) = some (.answer r')) :
    b = a ∧ r' = r ∨ T (.answer b) = some (.answer r') := by
  by_cases hb : b = a
  · subst hb
    rw [Function.update_self] at h
    cases h
    exact .inl ⟨rfl, rfl⟩
  · rw [Function.update_of_ne (by simpa using hb)] at h
    exact .inr h

theorem question?_update_answer {v : Option Tables.Row} :
    question? (Function.update T (.answer a) v) q = question? T q := by
  simp [question?]

theorem sound_newQuestion {new : NewQuestion} (hT : Sound T) (hid : T (.question id) = none) :
    Sound (Function.update T (.question id) (some (.question { new with }))) := by
  have hanswer : ∀ a, Function.update T (.question id) (some (.question { new with }))
      (.answer a) = T (.answer a) := fun a => Function.update_of_ne (by simp) ..
  have hquestion : ∀ q, q ≠ id → question? (Function.update T (.question id)
      (some (.question { new with }))) q = question? T q := fun q hq => by
    simp [question?, hq]
  refine ⟨fun a r ha => ?_, fun a r ha => ?_, fun q hq a => ?_⟩
  · rw [hanswer] at ha
    by_cases hq : r.questionId = id
    · simp [question?, hq, Row.question?]
    · rw [hquestion _ hq]
      exact hT.anchored a r ha
  · rw [hanswer] at ha
    exact hT.live a r ha
  · rw [acceptedOf_congr hanswer]
    by_cases hqid : q = id
    · subst hqid
      refine iff_of_false ?_ (by simp [named, question?, Row.question?])
      rintro ⟨r, ha, rfl, -⟩
      have hthere := hT.anchored a r ha
      simp [question?, hid] at hthere
    · rw [named, hquestion q hqid]
      exact hT.names q (hquestion q hqid ▸ hq) a

theorem sound_newAnswer {new : NewAnswer} (hT : Sound T) (hid : T (.answer id) = none)
    (hq : (question? T new.questionId).isSome) :
    Sound (Function.update T (.answer id) (some (.answer { new with }))) := by
  refine ⟨fun a r ha => ?_, fun a r ha hacc => ?_, fun q hq a => ?_⟩
  · rw [question?_update_answer]
    rcases answer_of_update ha with ⟨-, rfl⟩ | hr
    · exact hq
    · exact hT.anchored a r hr
  · rcases answer_of_update ha with ⟨-, rfl⟩ | hr
    · rfl
    · exact hT.live a r hr hacc
  · have hnew : id ∉ acceptedOf T q := by simp [acceptedOf, hid]
    rw [question?_update_answer] at hq
    rw [acceptedOf_update, if_neg (by simp), Set.sdiff_singleton_eq_self hnew, named,
      question?_update_answer]
    exact hT.names q hq a

/-! ## Deletions and acceptances -/

theorem isSome_question?_alter {p : String} {f : QuestionRow → Option QuestionRow} :
    (question? (alter T (.question q) (Row.onQuestion f)) p).isSome = (question? T p).isSome :=
  congrFun stands_alter_question (.question p)

theorem named_uncount {p b : String} :
    named (alter T (.question q) (Row.onQuestion fun r => some (r.uncountAnswer a))) p = some b ↔
      named T p = some b ∧ ¬(p = q ∧ b = a) := by
  rw [named, question?_alter]
  by_cases hp : p = q
  · subst hp
    cases hq : question? T p with
    | none => simp [named, hq]
    | some r =>
      by_cases hr : r.accepted = some a
      · simp [named, hq, QuestionRow.uncountAnswer, hr, eq_comm]
      · have hb : r.accepted = some b → b ≠ a := fun h he => hr (he ▸ h)
        simpa [named, hq, QuestionRow.uncountAnswer, hr] using hb
  · simp [named, hp]

/-- **A deleted answer** is not accepted any more, and not named. -/
theorem sound_remove {r : AnswerRow} (hT : Sound T) (ha : T (.answer a) = some (.answer r)) :
    Sound (alter (Function.update T (.answer a) (some (.answer r.remove))) (.question r.questionId)
      (Row.onQuestion fun q => some (q.uncountAnswer a))) := by
  refine ⟨fun b r' hb => ?_, fun b r' hb hacc => ?_, fun p hp b => ?_⟩
  · rw [alter_of_ne (by simp)] at hb
    rw [isSome_question?_alter, question?_update_answer]
    rcases answer_of_update hb with ⟨-, rfl⟩ | hb
    · exact hT.anchored a r ha
    · exact hT.anchored b r' hb
  · rw [alter_of_ne (by simp)] at hb
    rcases answer_of_update hb with ⟨-, rfl⟩ | hb
    · cases hacc
    · exact hT.live b r' hb hacc
  · rw [isSome_question?_alter, question?_update_answer] at hp
    have hnames := hT.names p hp
    rw [acceptedOf_congr fun _ => alter_of_ne (by simp), acceptedOf_update,
      if_neg (by simp [AnswerRow.remove]), named_uncount, named, question?_update_answer, ← named,
      Set.mem_sdiff, Set.mem_singleton_iff, ← hnames]
    -- an answer is accepted for its own question only
    refine and_congr_right fun hb => not_congr ⟨fun hba => ⟨?_, hba⟩, And.right⟩
    subst hba
    exact ((mem_acceptedOf ha).mp hb).1.symm

/-- The tables after the acceptances for a question have been taken back. -/
def cleared (T : Tables) (q : String) : Tables := fun k => ((T k).bind (clearing q k)).or (T k)

theorem question?_cleared {p : String} : question? (cleared T q) p = question? T p := by
  have hsame : cleared T q (.question p) = T (.question p) := by
    cases h : T (.question p) <;> simp [cleared, clearing, h]
  rw [question?, hsame, question?]

theorem answer_of_cleared {r : AnswerRow} (h : cleared T q (.answer a) = some (.answer r)) :
    ∃ r₀, T (.answer a) = some (.answer r₀) ∧ r₀.questionId = r.questionId ∧
      r₀.deleted = r.deleted ∧ (r.accepted = true ↔ r₀.accepted = true ∧ r₀.questionId ≠ q) := by
  rw [cleared] at h
  cases hm : (T (.answer a)).bind (clearing q (.answer a)) with
  | some w =>
    obtain ⟨_, r₀, -, hr₀, hq, hacc, rfl⟩ := bind_clearing_eq_some.mp hm
    rw [hm] at h
    cases h
    exact ⟨r₀, hr₀, rfl, rfl, by simp [hq]⟩
  | none =>
    rw [hm, Option.none_or] at h
    refine ⟨r, h, rfl, rfl, fun hacc => ⟨hacc, fun hq => ?_⟩, And.left⟩
    have hsome := bind_clearing_eq_some.mpr ⟨a, r, rfl, h, hq, hacc, rfl⟩
    rw [hm] at hsome
    cases hsome

theorem acceptedOf_cleared {p : String} :
    acceptedOf (cleared T q) p = if p = q then ∅ else acceptedOf T p := by
  ext b
  constructor
  · rintro ⟨r, hb, rfl, hacc⟩
    obtain ⟨r₀, hr₀, hid, -, hiff⟩ := answer_of_cleared hb
    obtain ⟨hacc₀, hne⟩ := hiff.mp hacc
    rw [if_neg (hid ▸ hne)]
    exact ⟨r₀, hr₀, hid, hacc₀⟩
  · split
    · intro hb
      cases hb
    · next hp =>
      rintro ⟨r, hb, rfl, hacc⟩
      have hkept : (T (.answer b)).bind (clearing q (.answer b)) = none := by
        simp [hb, clearing, Row.onAnswer, Row.answer?, AnswerRow.clear, hp]
      exact ⟨r, by rw [cleared, hkept, Option.none_or, hb], rfl, hacc⟩

/-- **An accepted answer** takes the place of the one that was accepted before. -/
theorem sound_accept {r : AnswerRow} (hT : Sound T)
    (ha : cleared T q (.answer a) = some (.answer r)) (hq : r.questionId = q)
    (hd : r.deleted = false) :
    Sound (alter (Function.update (cleared T q) (.answer a)
      (some (.answer { r with accepted := true }))) (.question q)
      (Row.onQuestion fun r => some { r with accepted := some a })) := by
  refine ⟨fun b r' hb => ?_, fun b r' hb hacc => ?_, fun p hp b => ?_⟩
  · rw [alter_of_ne (by simp)] at hb
    rw [isSome_question?_alter, question?_update_answer, question?_cleared]
    have hanchored : ∀ b r', cleared T q (.answer b) = some (.answer r') →
        (question? T r'.questionId).isSome := fun b r' hb => by
      obtain ⟨r₀, hr₀, hid, -, -⟩ := answer_of_cleared hb
      rw [← hid]
      exact hT.anchored b r₀ hr₀
    rcases answer_of_update hb with ⟨-, rfl⟩ | hb
    · exact hanchored a r ha
    · exact hanchored b r' hb
  · rw [alter_of_ne (by simp)] at hb
    rcases answer_of_update hb with ⟨-, rfl⟩ | hb
    · exact hd
    · obtain ⟨r₀, hr₀, -, hdel, hiff⟩ := answer_of_cleared hb
      rw [← hdel]
      exact hT.live b r₀ hr₀ (hiff.mp hacc).1
  · rw [isSome_question?_alter, question?_update_answer, question?_cleared] at hp
    have hstands : ∀ p, stands (Function.update (cleared T q) (.answer a)
        (some (.answer { r with accepted := true }))) (.question p) = (question? T p).isSome :=
      fun p => by rw [← question?_cleared (q := q), ← question?_update_answer]; rfl
    have hnamed : named (Function.update (cleared T q) (.answer a)
        (some (.answer { r with accepted := true }))) p = named T p := by
      rw [named, question?_update_answer, question?_cleared, named]
    rw [acceptedOf_congr fun _ => alter_of_ne (by simp), acceptedOf_update, acceptedOf_cleared,
      named_alter, hnamed, hstands]
    by_cases hpq : p = q
    · subst hpq
      rw [if_pos ⟨hq, rfl⟩, if_pos rfl, if_pos ⟨rfl, hp⟩, insert_empty_eq, Set.mem_singleton_iff,
        Option.some.injEq, eq_comm]
    · -- the answer was not accepted for another question
      have hother : a ∉ acceptedOf T p := by
        rintro ⟨r', ha', hr', -⟩
        obtain ⟨r₀, hr₀, hid, -, -⟩ := answer_of_cleared ha
        rw [ha'] at hr₀
        cases hr₀
        exact hpq (hr'.symm.trans (hid.trans hq))
      rw [if_neg (fun h => hpq (h.1.symm.trans hq)), if_neg hpq, if_neg (fun h => hpq h.1),
        Set.sdiff_singleton_eq_self hother]
      exact hT.names p hp b

/-! ## Changes -/

section Changes

variable {s : Course}

theorem keeps_editQuestion {st : Statement} {f : QuestionRow → QuestionRow}
    (hop : ∀ n, rowOp n st = some (.alter (.question id) (Row.editQuestion f)))
    (hf : ∀ r, (f r).accepted = r.accepted) : s.Keeps .alone Sound (executeOn id st) :=
  Course.keeps_statement run_executeOn fun n => ⟨_, hop n,
    RowOp.keeps_alter fun _ hT => sound_editQuestion hT hf⟩

theorem keeps_recordVote {user : String} {o : ObjectInfo} {up : Bool} :
    s.Keeps .alone Sound (recordVote user o up) := by
  unfold recordVote
  cases Post.ofKind? o.kind with
  | none => exact Course.keeps_throw
  | some p =>
    refine Course.keeps_transaction_of_keeps fun T₀ => ?_
    refine Course.keeps_bind (Course.keeps_statement run_fetchOptional fun _ => ⟨_, rfl,
      RowOp.keeps_alter fun T hT => sound_alter hT fun _ _ => rfl⟩) fun earlier => ?_
    refine Course.keeps_bind ?_ fun vote => ?_
    · unfold storeVote
      split
      · exact Course.keeps_bind (Course.keeps_statement run_execute fun _ => ⟨_, rfl,
          RowOp.keeps_delete fun T hT => sound_update hT rfl⟩) fun _ => Course.keeps_pure
      · exact Course.keeps_bind (Course.keeps_statement run_execute fun _ => ⟨_, rfl,
          RowOp.keeps_make fun T v hT _ => sound_update hT rfl⟩) fun _ => Course.keeps_pure
    · exact Course.keeps_bind (Course.keeps_statement run_fetchOn fun _ => ⟨_, rfl,
        RowOp.keeps_alter fun T hT => sound_addVotes hT⟩) fun _ => Course.keeps_pure

theorem keeps_createAnswer {new : NewAnswer} : s.Keeps .alone Sound (createAnswer new) := by
  refine Course.keeps_transaction fun T hT => ?_
  refine Course.does_bind_except (Course.does_alter_cases run_executeOn (fun _ => rfl)
    (fun _ _ => trivial) (fun _ _ => trivial) fun _ v hv => ?_)
  obtain ⟨r, hr, -, rfl⟩ := Row.bind_editQuestion_eq_some.mp hv
  have hT₁ : Sound (Function.update T (.question new.questionId)
      (some (.question r.countAnswer))) := by
    refine sound_update hT ?_
    rw [hr]
    rfl
  refine Course.does_bind_except (Course.does_nextId (fun _ _ => trivial) fun id => ?_)
  refine Course.does_bind_except (Course.does_insert run_execute (fun _ => rfl)
    (fun _ _ => trivial) trivial fun _ hid => Course.does_pure ?_)
  exact sound_newAnswer hT₁ hid (by simp [question?, Row.question?])

theorem keeps_deleteAnswer : s.Keeps .alone Sound (deleteAnswer id) := by
  refine Course.keeps_transaction fun T hT => ?_
  refine Course.does_bind_except (Course.does_alter_cases run_fetchOn (fun _ => rfl)
    (fun _ _ => trivial) (fun _ _ => trivial) fun _ v hv => ?_)
  obtain ⟨r, hr, -, rfl⟩ := Row.bind_editAnswer_eq_some.mp hv
  exact Course.does_bind_except (Course.does_alter run_execute (fun _ => rfl)
    (fun _ _ => trivial) fun _ => Course.does_pure (sound_remove hT hr))

/-- **An acceptance** goes well only for an answer of the question that is not deleted. -/
theorem does_acceptAnswer (hT : Sound T) :
    s.Does .alone (acceptAnswer q a).run T (Ends (fun _ T' => Live T q a ∧ Sound T')
      fun _ T' => T' = T ∨ Live T q a ∧ Sound T') := by
  refine Course.does_transaction (B := fun _ => True) ?_ (fun _ _ => .inl rfl)
    (fun _ _ => .inl rfl) fun _ _ _ h _ => .inr h
  refine Course.does_bind_except (Course.does_statement run_execute (fun _ _ => trivial)
    (fun _ _ => trivial) fun n o T₁ h => ⟨?_, fun _ _ => trivial⟩)
  obtain rfl : cleared T q = T₁ := by
    cases h
    rfl
  refine Course.does_bind_except (Course.does_alter_cases run_executeOn (fun _ => rfl)
    (fun _ _ => trivial) (fun _ _ => trivial) fun _ v hv => ?_)
  obtain ⟨r, hr, hq, hd, rfl⟩ := bind_mark_eq_some.mp hv
  have hlive : Live T q a := by
    obtain ⟨r₀, hr₀, hid, hdel, -⟩ := answer_of_cleared hr
    exact ⟨r₀, hr₀, hid.trans hq, hdel.trans hd⟩
  exact Course.does_bind_except (Course.does_alter run_execute (fun _ => rfl)
    (fun _ _ => trivial) fun _ => Course.does_pure ⟨hlive, sound_accept hT hr hq hd⟩)

/-- **Every change** keeps questions and answers in step, wherever it fails. -/
theorem keeps_change (w : Write) : s.Keeps .alone Sound (change w) := by
  cases w with
  | createQuestion new =>
    exact Course.keeps_bind Course.keeps_nextId fun id => Course.keeps_bind
      (Course.keeps_statement run_execute fun _ => ⟨_, rfl,
        RowOp.keeps_insert fun T hT hid => sound_newQuestion hT hid⟩) fun _ => Course.keeps_pure
  | updateQuestion id t c => exact keeps_editQuestion (fun _ => rfl) fun _ => rfl
  | createAnswer new => exact keeps_createAnswer
  | updateAnswer id c =>
    exact Course.keeps_statement run_executeOn fun _ => ⟨_, rfl,
      RowOp.keeps_alter fun T hT => sound_editAnswer hT⟩
  | createComment c =>
    exact Course.keeps_bind Course.keeps_nextId fun id => Course.keeps_bind
      (Course.keeps_statement run_execute fun _ => ⟨_, rfl,
        RowOp.keeps_insert fun T hT _ => sound_update hT rfl⟩) fun _ => Course.keeps_pure
  | addReport r =>
    exact Course.keeps_statement run_fetchOne fun _ => ⟨_, rfl,
      RowOp.keeps_insert fun T hT _ => sound_update hT rfl⟩
  | deleteQuestion id => exact keeps_editQuestion (fun _ => rfl) fun _ => rfl
  | updateQuestionStatus id status => exact keeps_editQuestion (fun _ => rfl) fun _ => rfl
  | setQuestionPinned id pinned => exact keeps_editQuestion (fun _ => rfl) fun _ => rfl
  | deleteAnswer id => exact keeps_deleteAnswer
  | acceptAnswer q a =>
    intro T hT
    refine (does_acceptAnswer hT).mono fun r T' hr => ?_
    cases r with
    | ok _ => exact hr.2
    | error e =>
      rcases hr with rfl | ⟨-, hT'⟩
      · exact hT
      · exact hT'
  | deleteComment id =>
    exact Course.keeps_statement run_executeOn fun _ => ⟨_, rfl,
      RowOp.keeps_alter fun T hT => sound_alter hT fun _ _ => rfl⟩
  | recordVote user o up => exact keeps_recordVote

/-- **A question and its answers agree on which one is accepted** after any changes of content one
after another, wherever each of them fails. An acceptance of what is not an answer of the question,
or is deleted, then fails and changes nothing: what was accepted stays so. -/
theorem accepted_answer_agrees {ws : List Write} {c : Connection} (hanchored : Anchored T)
    (hagrees : ∀ q, (question? T q).isSome → Agrees T q)
    (h : s.changes ws { stored := T } = c) :
    (∀ q, (question? c.stored q).isSome → Agrees c.stored q) ∧
      ∀ q a, ¬Live c.stored q a → (∃ e, (s.run (acceptAnswer q a).run c).1 = .error e) ∧
        (s.run (acceptAnswer q a).run c).2.stored = c.stored := by
  have hkeeps : ∀ w ∈ ws, s.Keeps .alone Sound (change w) := fun w _ => keeps_change w
  obtain ⟨hworking, hsound⟩ := Course.keeps_changes hkeeps (c := { stored := T }) rfl
    (sound_of_agrees hanchored hagrees)
  rw [h] at hworking hsound
  refine ⟨fun q hq => hsound.agrees hq, fun q a hlive => ?_⟩
  obtain ⟨T', ⟨hstored, -⟩, hend⟩ := does_acceptAnswer hsound c ⟨rfl, hworking⟩
  rw [hstored]
  cases hr : (s.run (acceptAnswer q a).run c).1 with
  | ok _ =>
    rw [hr] at hend
    exact absurd hend.1 hlive
  | error e =>
    rw [hr] at hend
    refine ⟨⟨e, rfl⟩, ?_⟩
    rcases hend with rfl | ⟨hthere, -⟩
    · rfl
    · exact absurd hthere hlive

end Changes

theorem anchored_board : Anchored board := by
  intro a r ha
  simp only [board] at ha
  split at ha
  · cases ha
  · split at ha
    · cases ha
      decide
    · split at ha
      · cases ha
        decide
      · cases ha

theorem named_board : named board q = none := by
  by_cases hq : q = question
  · subst hq
    decide
  · simp [named, question?, board, hq]

theorem agrees_board : Agrees board q where
  some_iff a := by simp [named_board, acceptedOf_board]
  none_iff := by simp [named_board, acceptedOf_board]

/-- The question after an acceptance, the deletion of the accepted answer, and another acceptance
during which the database fails. -/
theorem accepted_answer_agrees_board :
    Anchored board ∧ (∀ q, (question? board q).isSome → Agrees board q) ∧
      ∃ c, Course.changes ⟨fun n => if n = 12 then .fails .other else .done, fun _ => 1, .other⟩
          [.acceptAnswer question first, .deleteAnswer first, .acceptAnswer question second]
          { stored := board } = c ∧
        ∀ q, (question? c.stored q).isSome → Agrees c.stored q :=
  ⟨anchored_board, fun _ _ => agrees_board, _, rfl,
    (accepted_answer_agrees anchored_board (fun _ _ => agrees_board) rfl).1⟩

end Forum.Acceptance
