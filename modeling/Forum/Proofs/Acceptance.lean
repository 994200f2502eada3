import Forum.Proofs.Locks

/-!
# Acceptances at once

An acceptance takes back the acceptances of the question that it comes upon, marks its answer, and
names it in the question. What any number of acceptances at once make of a question.

* `Acceptance.OneAccepted`: at most one answer of a question is accepted, the one that it names;
* `Acceptance.overlooked`: the accepted answers that an acceptance has not come upon;
* **`Call.serves`**: what an acceptance makes of a question whenever it is committed;
* **`oneAccepted_iff`**: one answer is accepted exactly if the last acceptance has overlooked none.
-/

namespace Forum.Acceptance

open Sql Storage Tables

/-! ## What is accepted -/

/-- The accepted answers of a question. -/
def acceptedOf (T : Tables) (q : String) : Set String :=
  {a | ∃ r, T (.answer a) = some (.answer r) ∧ r.questionId = q ∧ r.accepted = true}

theorem mem_acceptedOf {T : Tables} {q a : String} {r : AnswerRow}
    (h : T (.answer a) = some (.answer r)) :
    a ∈ acceptedOf T q ↔ r.questionId = q ∧ r.accepted = true := by
  simp [acceptedOf, h]

theorem acceptedOf_congr {T T' : Tables} {q : String} (h : ∀ a, T' (.answer a) = T (.answer a)) :
    acceptedOf T' q = acceptedOf T q := by
  simp only [acceptedOf, h]

theorem acceptedOf_update {T : Tables} {q a : String} {r : AnswerRow} :
    acceptedOf (Function.update T (.answer a) (some (.answer r))) q =
      if r.questionId = q ∧ r.accepted = true then insert a (acceptedOf T q)
      else acceptedOf T q \ {a} := by
  ext b
  by_cases hb : b = a
  · subst hb
    split <;> simp_all [acceptedOf]
  · split <;> simp [acceptedOf, hb]

instance {T : Tables} {q a : String} : Decidable (a ∈ acceptedOf T q) :=
  decidable_of_iff ((answer? T a).any fun r => r.questionId = q && r.accepted)
    (by simp [acceptedOf, answer?_eq_some, Option.any_eq_true])

/-- The answer that a question names as accepted. -/
def named (T : Tables) (q : String) : Option String := (question? T q).bind QuestionRow.accepted

/-- At most one answer of a question is accepted, and the question names it. -/
def OneAccepted (T : Tables) (q : String) : Prop := ∀ a ∈ acceptedOf T q, named T q = some a

/-! ## One acceptance -/

/-- A call that accepts an answer of a question. -/
structure Call where
  question : String
  answer : String
deriving DecidableEq

/-- The program of a call. -/
def Call.program (c : Call) : Storage (Except ServiceError Unit) :=
  (acceptAnswer c.question c.answer).run

variable {T T' : Tables} {t : Rows Key Tables.Row} {i : Nat} {q : String} {g : Grips Key Tables.Row}

/-- What is held are answers of a question, whose acceptance is now as it should be. -/
def Holds (q : String) (accepted : String → Bool) (g : Grips Key Tables.Row) : Prop :=
  ∀ k v, g k = some v → ∃ a r, k = .answer a ∧ r.questionId = q ∧ v.base = some (.answer r) ∧
    v.version = some (.answer { r with accepted := accepted a })

theorem Holds.nothing {accepted : String → Bool} : Holds q accepted Grips.nothing := by
  intro k v h
  cases h

theorem Holds.question {accepted : String → Bool} (h : Holds q accepted g) {p : String} :
    g (.question p) = none := by
  cases hg : g (.question p) with
  | none => rfl
  | some v =>
    obtain ⟨a, r, hk, -⟩ := h _ v hg
    cases hk

/-- The accepted answers of a question that a transaction does not hold. -/
def overlooked (q : String) (i : Nat) (t : Rows Key Tables.Row) : Set String :=
  {a ∈ acceptedOf t.committed q | t.grip i (.answer a) = none}

theorem Holds.hold {accepted : String → Bool} {a : String} {r : AnswerRow} (h : Holds q accepted g)
    (hq : r.questionId = q) :
    Holds q accepted (g.hold (.answer a) (some (.answer r))
      (some (.answer { r with accepted := accepted a }))) := by
  intro k v hk
  by_cases hne : k = .answer a
  · subst hne
    rw [Grips.hold_self] at hk
    cases hk
    exact ⟨a, r, rfl, hq, rfl, rfl⟩
  · rw [Grips.hold_of_ne hne] at hk
    exact h k v hk

theorem holds_take_clear {k : Key} {v : Tables.Row} (h : Holds q (fun _ => false) (t.grip i))
    (hv : (t.sees i k).bind (clearing q k) = some v) :
    Holds q (fun _ => false) ((t.take i k (some v)).grip i) := by
  obtain ⟨a, r, rfl, hr, hq, hacc, rfl⟩ := bind_clearing_eq_some.mp hv
  cases hg : t.grip i (.answer a) with
  | some w =>
    -- an answer that it holds is not accepted any more
    obtain ⟨a', r₀, -, -, -, hversion⟩ := h _ w hg
    rw [Rows.sees_of_held hg, hversion] at hr
    cases hr
    cases hacc
  | none =>
    rw [Rows.sees_of_not_held hg] at hr
    rw [Rows.grip_take_of_not_held hg, hr]
    exact h.hold hq

theorem holds_take_mark {a : String} {v : Tables.Row} (h : Holds q (fun _ => false) (t.grip i))
    (hv : (t.sees i (.answer a)).bind (Row.onAnswer (AnswerRow.mark q)) = some v) :
    Holds q (· = a) ((t.take i (.answer a) (some v)).grip i) := by
  obtain ⟨r, hr, hq, -, rfl⟩ := bind_mark_eq_some.mp hv
  rw [Rows.grip_take]
  intro k w hk
  by_cases hne : k = .answer a
  · subst hne
    rw [Function.update_self] at hk
    cases hk
    cases hg : t.grip i (.answer a) with
    | none =>
      rw [Rows.sees_of_not_held hg] at hr
      exact ⟨a, r, rfl, hq, hr, by simp⟩
    | some g =>
      obtain ⟨a', r₀, ha', hq₀, hbase, hversion⟩ := h _ g hg
      rw [Rows.sees_of_held hg, hversion] at hr
      cases hr
      exact ⟨a, r₀, rfl, hq₀, (Rows.committed_eq_base hg).trans hbase, by simp⟩
  · rw [Function.update_of_ne hne] at hk
    obtain ⟨a', r, rfl, hq', hbase, hversion⟩ := h k w hk
    have ha' : a' ≠ a := fun he => hne (by rw [he])
    exact ⟨a', r, rfl, hq', hbase, by simpa [ha'] using hversion⟩

theorem Holds.stands_onto {accepted : String → Bool} (h : Holds q accepted g) :
    stands (g.onto T) = stands T := by
  funext k
  cases hk : g k with
  | none => rw [stands, stands, Grips.onto, hk, Option.elim_none]
  | some v =>
    obtain ⟨a, -, rfl, -⟩ := h k v hk
    rfl

/-- What the commit of an acceptance makes: the answer is accepted with those that were overlooked,
and named; of other questions nothing changes. -/
structure Accepts (c : Call) (i : Nat) (t : Rows Key Tables.Row) : Prop where
  marked : c.answer ∉ overlooked c.question i t
  accepted : acceptedOf (t.publish i).committed c.question =
    insert c.answer (overlooked c.question i t)
  naming : stands t.committed (.question c.question) = true →
    named (t.publish i).committed c.question = some c.answer
  others : ∀ q, q ≠ c.question → acceptedOf (t.publish i).committed q = acceptedOf t.committed q ∧
    named (t.publish i).committed q = named t.committed q
  standing : stands (t.publish i).committed = stands t.committed

theorem named_alter {a p : String} :
    named (alter T (.question q) (Row.onQuestion fun r => some { r with accepted := some a })) p =
      if p = q ∧ stands T (.question q) = true then some a else named T p := by
  have hstands : stands T (.question q) = (question? T q).isSome := rfl
  rw [named, question?_alter, hstands]
  by_cases hp : p = q
  · subst hp
    cases hq : question? T p <;> simp [named, hq]
  · simp [named, hp]

theorem accepts_of_holds {c : Call} (hg : Holds c.question (· = c.answer) g)
    (hmarked : g (.answer c.answer) ≠ none)
    (hgrip : ∀ k, k ≠ .question c.question → t.grip i k = g k)
    (hpublish : (t.publish i).committed = alter (g.onto t.committed) (.question c.question)
      (Row.onQuestion fun r => some { r with accepted := some c.answer })) : Accepts c i t := by
  have hquestion : ∀ p, g.onto t.committed (.question p) = t.committed (.question p) := fun p => by
    rw [Grips.onto, hg.question, Option.elim_none]
  have hrow : ∀ a, (t.publish i).committed (.answer a) =
      g.onto t.committed (.answer a) := fun a => by
    rw [hpublish, alter_of_ne (by simp)]
  -- an answer that is not held is what it was, one that is held is accepted if it is the one
  have hfree : ∀ a p, g (.answer a) = none →
      (a ∈ acceptedOf (t.publish i).committed p ↔ a ∈ acceptedOf t.committed p) := by
    intro a p ha
    have hsame : (t.publish i).committed (.answer a) = t.committed (.answer a) := by
      rw [hrow, Grips.onto, ha, Option.elim_none]
    simp only [acceptedOf, Set.mem_ofPred_eq, hsame]
  have hheld : ∀ a v, g (.answer a) = some v → ∃ r, r.questionId = c.question ∧
      t.committed (.answer a) = some (.answer r) ∧
      (t.publish i).committed (.answer a) =
        some (.answer { r with accepted := decide (a = c.answer) }) := by
    intro a v ha
    obtain ⟨a', r, hk, hq, hbase, hversion⟩ := hg _ v ha
    cases hk
    refine ⟨r, hq, ?_, ?_⟩
    · rw [Rows.committed_eq_base ((hgrip _ (by simp)).trans ha), hbase]
    · rw [hrow, Grips.onto, ha, Option.elim_some, hversion]
  have hmem : ∀ a, a ∈ overlooked c.question i t ↔
      a ∈ acceptedOf t.committed c.question ∧ g (.answer a) = none := fun a => by
    rw [← hgrip _ (by simp)]
    rfl
  refine ⟨fun h => hmarked ((hmem _).mp h).2, ?_, ?_, ?_, ?_⟩
  · ext a
    rw [Set.mem_insert_iff, hmem]
    cases ha : g (.answer a) with
    | none =>
      have hne : a ≠ c.answer := fun he => hmarked (he ▸ ha)
      simp [hfree a _ ha, hne]
    | some v =>
      obtain ⟨r, hq, -, hr⟩ := hheld a v ha
      simp [mem_acceptedOf hr, hq]
  · intro hstands
    rw [hpublish, named_alter, if_pos]
    exact ⟨rfl, by rw [stands, hquestion]; exact hstands⟩
  · intro p hp
    refine ⟨?_, ?_⟩
    · ext a
      cases ha : g (.answer a) with
      | none => exact hfree a p ha
      | some v =>
        obtain ⟨r, hq, hr₀, hr⟩ := hheld a v ha
        simp [mem_acceptedOf hr, mem_acceptedOf hr₀, hq, Ne.symm hp]
    · rw [hpublish, named_alter, if_neg (fun h => hp h.1), named, named, question?, question?,
        hquestion]
  · rw [hpublish, stands_alter_question, hg.stands_onto]

/-- The terms on which acceptances are made at once. -/
def terms (cs : List Call) : Terms Key Tables.Row :=
  Tables.terms (fun i t => ∃ c, cs[i]? = some c ∧ Accepts c i t) fun _ _ ⟨_, _, h⟩ => h.standing

/-- **An acceptance** makes that whenever it is committed. -/
theorem Call.serves {ch : Choices} {cs : List Call} {c : Call} (hc : cs[i]? = some c)
    (ht : Database.Ended i t) :
    (database ch).Serves i (terms cs) (fun _ => Database.Ended i) c.program t := by
  refine Database.serves_transaction ht fun t₁ hr₁ => ?_
  have hg₁ : t₁.grip i = Grips.nothing := hr₁.1.trans ht
  refine Database.Serves.bind_except (Database.serves_execute (serves_sweep
    (P := fun t => Holds c.question (fun _ => false) (t.grip i)) rfl
    (fun t k v h hv => holds_take_clear h hv) (fun t₂ hr₂ => ?_) fun n t₂ h₂ => ?_))
  · rw [hr₂.1, hg₁]
    exact .nothing
  refine Database.Serves.bind_except (Database.serves_executeOn (serves_alter rfl
    (fun _ _ _ h => (h rfl).elim) fun t₃ v hr₃ hv _ => ?_))
  have hholds := holds_take_mark (hr₃.1 ▸ h₂) hv
  have hmarked : (t₃.take i (.answer c.answer) (some v)).grip i (.answer c.answer) ≠ none := by
    rw [Rows.grip_take, Function.update_self]
    simp
  refine Database.Serves.bind_except (serves_alter_last rfl rfl hholds.question
    (fun _ => bind_onQuestion_eq_none_iff) fun _ t₄ h₄ => Database.serves_pure fun t₅ hr₅ => ?_)
  obtain ⟨hgrip, hpublish⟩ := h₄ t₅ hr₅
  exact ⟨c, hc, accepts_of_holds hholds hmarked hgrip hpublish⟩

/-! ## Many acceptances -/

/-- Acceptances at once, on tables of which nobody holds a row yet. -/
def calls (T : Tables) (cs : List Call) : System Key Tables.Row (Except ServiceError Unit) :=
  ⟨⟨T, fun _ => none⟩, cs.map Call.program⟩

theorem calls_serves (ch : Choices) (T : Tables) (cs : List Call) :
    (calls T cs).Serves (database ch) (terms cs) :=
  System.serves_map fun _ _ _ hc ht => Call.serves hc ht

/-- The last acceptance for a question among some commits. -/
def last? (cs : List Call) (q : String) (commits : List (Nat × Rows Key Tables.Row)) :
    Option (Nat × Rows Key Tables.Row) :=
  (commits.filter fun c => (cs[c.1]?).any (·.question = q)).getLast?

theorem last?_append {cs : List Call} {c : Call} {l : List (Nat × Rows Key Tables.Row)}
    (hc : cs[i]? = some c) :
    last? cs q (l ++ [(i, t)]) = if c.question = q then some (i, t) else last? cs q l := by
  by_cases hq : c.question = q <;> simp [last?, hc, hq]

/-- What is true of a question after some commits: it is what it was, or what the last acceptance
for it has made. -/
structure Accepted (cs : List Call) (q : String) (T : Tables)
    (commits : List (Nat × Rows Key Tables.Row)) (T' : Tables) : Prop where
  standing : stands T' (.question q) = true
  unchanged : last? cs q commits = none → acceptedOf T' q = acceptedOf T q ∧ named T' q = named T q
  changed : ∀ i t, last? cs q commits = some (i, t) → ∃ c, cs[i]? = some c ∧
    c.answer ∉ overlooked q i t ∧ acceptedOf T' q = insert c.answer (overlooked q i t) ∧
    named T' q = some c.answer

/-- **A commit** keeps that. -/
theorem accepted_publish {cs : List Call} {c : Call} {l : List (Nat × Rows Key Tables.Row)}
    (hc : cs[i]? = some c) (h : Accepts c i t) (hl : Accepted cs q T l t.committed) :
    Accepted cs q T (l ++ [(i, t)]) (t.publish i).committed := by
  have hstanding : stands (t.publish i).committed (.question q) = true := by
    rw [h.standing, hl.standing]
  by_cases hq : c.question = q
  · subst hq
    have hlast : last? cs c.question (l ++ [(i, t)]) = some (i, t) := by
      rw [last?_append hc, if_pos rfl]
    refine ⟨hstanding, fun hn => ?_, fun i' t' he => ?_⟩
    · rw [hlast] at hn
      cases hn
    · rw [hlast] at he
      cases he
      exact ⟨c, hc, h.marked, h.accepted, h.naming hl.standing⟩
  · obtain ⟨haccepted, hnamed⟩ := h.others q (Ne.symm hq)
    have hlast : last? cs q (l ++ [(i, t)]) = last? cs q l := by rw [last?_append hc, if_neg hq]
    refine ⟨hstanding, fun hn => ?_, fun i' t' he => ?_⟩
    · rw [haccepted, hnamed]
      exact hl.unchanged (hlast ▸ hn)
    · rw [haccepted, hnamed]
      exact hl.changed i' t' (hlast ▸ he)

variable {ch : Choices} {cs : List Call} {turns : List (Nat × Turn)}
  {s : System Key Tables.Row (Except ServiceError Unit)}

/-- What a run of acceptances makes of a question. -/
theorem accepted_run (hq : (question? T q).isSome)
    (h : (calls T cs).run (database ch) turns = some s) :
    Accepted cs q T ((calls T cs).commits (database ch) turns) s.rows.committed := by
  have hstart : Accepted cs q T [] (calls T cs).rows.committed :=
    ⟨hq, fun _ => ⟨rfl, rfl⟩, fun i t hlast => by cases hlast⟩
  refine System.run_commits (Accepted cs q T) ?_ (calls_serves ch T cs) hstart h
  rintro l j t ⟨c, hc, hm⟩ hl
  exact accepted_publish hc hm hl

/-- **At most one answer of a question is accepted, the one that it names,** after any number of
acceptances at once, in any order of their operations and whatever fails, exactly if the last one of
that question has come upon all answers that were accepted when it was committed. -/
theorem oneAccepted_iff (hq : (question? T q).isSome) (hT : OneAccepted T q)
    (h : (calls T cs).run (database ch) turns = some s) :
    OneAccepted s.rows.committed q ↔
      ∀ i t, last? cs q ((calls T cs).commits (database ch) turns) = some (i, t) →
        overlooked q i t = ∅ := by
  have hrun := accepted_run hq h
  cases hlast : last? cs q ((calls T cs).commits (database ch) turns) with
  | none =>
    obtain ⟨haccepted, hnamed⟩ := hrun.unchanged hlast
    refine iff_of_true ?_ nofun
    rw [OneAccepted, haccepted, hnamed]
    exact hT
  | some l =>
    obtain ⟨i, t⟩ := l
    obtain ⟨c, -, hmarked, haccepted, hnamed⟩ := hrun.changed i t hlast
    rw [OneAccepted, haccepted, hnamed]
    constructor
    · rintro hone _ _ ⟨⟩
      by_contra hne
      obtain ⟨a, ha⟩ := Set.nonempty_iff_ne_empty.mpr hne
      have he := hone a (Set.mem_insert_of_mem _ ha)
      cases he
      exact hmarked ha
    · intro hempty a ha
      rw [hempty i t rfl, Set.mem_insert_iff] at ha
      rcases ha with rfl | ha
      · rfl
      · cases ha

/-! ## A question with two answers -/

/-- The id of a question. -/
def question : String := "10010000000000001"

/-- The ids of its answers. -/
def first : String := "10020000000000001"

@[inherit_doc first]
def second : String := "10020000000000002"

/-- The question and its answers, none of which is accepted. -/
def board : Tables := fun k =>
  if k = .question question then
    some (.question { userId := "asker", title := "Why?", content := "", answers := 2 })
  else if k = .answer first then
    some (.answer { questionId := question, userId := "helper", content := "So." })
  else if k = .answer second then
    some (.answer { questionId := question, userId := "expert", content := "Thus." })
  else none

/-- Every sweep comes upon both answers. -/
def boardChoices : Choices := ⟨fun _ => [.answer first, .answer second], fun _ => 1⟩

/-- The acceptances of one answer and of the other. -/
def boardCalls : List Call := [⟨question, first⟩, ⟨question, second⟩]

/-- One acceptance after the other. -/
def inTurn : List (Nat × Turn) := [0, 0, 0, 0, 0, 1, 1, 1, 1, 1].map (·, .done)

/-- Both acceptances look for accepted answers before either has marked its own. -/
def atOnce : List (Nat × Turn) := [0, 1, 0, 1, 0, 1, 0, 0, 1, 1].map (·, .done)

/-- What a call has ended with, if it has ended. -/
def result? : Storage (Except ServiceError Unit) → Option (Except ServiceError Unit)
  | Program.done r => some r
  | Program.ask _ _ => none

theorem acceptedOf_board {q : String} : acceptedOf board q = ∅ := by
  ext a
  refine iff_of_false ?_ (by simp)
  rintro ⟨r, hr, -, hacc⟩
  simp only [board] at hr
  split at hr
  · cases hr
  · split at hr
    · cases hr
      cases hacc
    · split at hr
      · cases hr
        cases hacc
      · cases hr

theorem oneAccepted_board : OneAccepted board question := by
  rw [OneAccepted, acceptedOf_board]
  simp

/-- Two acceptances, one after the other. -/
theorem oneAccepted_iff_inTurn :
    (question? board question).isSome ∧ OneAccepted board question ∧
      ∃ s, (calls board boardCalls).run (database boardChoices) inTurn = some s ∧
        (OneAccepted s.rows.committed question ↔
          ∀ i t, last? boardCalls question
              ((calls board boardCalls).commits (database boardChoices) inTurn) = some (i, t) →
            overlooked question i t = ∅) := by
  obtain ⟨s, hs⟩ := Option.isSome_iff_exists.mp (show ((calls board boardCalls).run
    (database boardChoices) inTurn).isSome = true by decide +kernel)
  exact ⟨by decide, oneAccepted_board, s, hs, oneAccepted_iff (by decide) oneAccepted_board hs⟩

/-- **Two acceptances at once** both end well, and two answers are accepted, of which the question
names the later one. -/
theorem not_oneAccepted_atOnce :
    OneAccepted board question ∧
      ∃ s, (calls board boardCalls).run (database boardChoices) atOnce = some s ∧
        (∀ p ∈ s.programs, (result? p).map Except.toBool = some true) ∧
        first ∈ acceptedOf s.rows.committed question ∧
        second ∈ acceptedOf s.rows.committed question ∧
        named s.rows.committed question = some second ∧
        ¬OneAccepted s.rows.committed question := by
  have hrun : ((calls board boardCalls).run (database boardChoices) atOnce).any (fun s =>
      (∀ p ∈ s.programs, (result? p).map Except.toBool = some true) ∧
        first ∈ acceptedOf s.rows.committed question ∧
        second ∈ acceptedOf s.rows.committed question ∧
        named s.rows.committed question = some second) = true := by decide +kernel
  obtain ⟨s, hs, hend⟩ := (Option.any_eq_true _ _).mp hrun
  obtain ⟨hended, hfirst, hsecond, hnamed⟩ := of_decide_eq_true hend
  refine ⟨oneAccepted_board, s, hs, hended, hfirst, hsecond, hnamed, fun hone => ?_⟩
  have he : some second = some first := hnamed.symm.trans (hone first hfirst)
  exact absurd he (by decide)

end Forum.Acceptance
