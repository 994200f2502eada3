import Forum.Proofs.Locks
import Forum.Storage.Repository

/-!
# Counts of answers and of awards

A question counts its answers that are not deleted, a badge its awards. What any number of answers
that are made and deleted at once, and of awards, make of these counts.

* `Counts.Counted`: all questions and badges count what there is of them;
* `Counts.Call`, `Counts.Call.Makes`: a call, and what its commit makes of the tables;
* **`Call.serves`**: a call makes that whenever it is committed;
* **`counted_of_makes`**: it keeps the counts;
* **`counts_kept`**: they are kept by any number of calls at once, and no answer is uncounted twice.
-/

namespace Forum.Counts

open Sql Storage Tables

/-! ## What is counted -/

/-- The answers of a question that are not deleted. -/
def answersOf (T : Tables) (q : String) : Set String :=
  {a | ∃ r, T (.answer a) = some (.answer r) ∧ r.questionId = q ∧ r.deleted = false}

/-- The awards of a badge. -/
def awardsOf (T : Tables) (b : Int) : Set Int :=
  {i | ∃ g, T (.award i) = some (.award g) ∧ g.badgeId = b}

/-- A set has so many elements. -/
def HasCount {α : Type} (S : Set α) (n : Int) : Prop := S.Finite ∧ (S.ncard : Int) = n

namespace HasCount

variable {α : Type} {S : Set α} {a : α} {n : Int}

theorem insert (h : HasCount S n) (ha : a ∉ S) : HasCount (insert a S) (n + 1) := by
  obtain ⟨hfin, hn⟩ := h
  have hcard := Set.ncard_insert_of_notMem ha hfin
  exact ⟨hfin.insert a, by omega⟩

theorem remove (h : HasCount S n) (ha : a ∈ S) : 1 ≤ n ∧ HasCount (S \ {a}) (n - 1) := by
  obtain ⟨hfin, hn⟩ := h
  have hcard := Set.ncard_sdiff_singleton_add_one ha hfin
  exact ⟨by omega, hfin.sdiff, by omega⟩

theorem empty : HasCount (∅ : Set α) 0 := ⟨Set.finite_empty, by simp⟩

end HasCount

/-- Every question counts its answers that are not deleted, and every badge its awards. -/
structure Counted (T : Tables) : Prop where
  answers : ∀ q r, question? T q = some r → HasCount (answersOf T q) r.answers
  awards : ∀ b n, badge? T b = some n → HasCount (awardsOf T b) n

variable {T T' : Tables} {k : Key} {v : Option Tables.Row} {a q : String} {b i : Int}

theorem mem_answersOf {r : AnswerRow} (ha : T (.answer a) = some (.answer r)) :
    a ∈ answersOf T q ↔ r.questionId = q ∧ r.deleted = false := by
  simp [answersOf, ha]

theorem answersOf_congr (h : ∀ a, T' (.answer a) = T (.answer a)) :
    answersOf T' q = answersOf T q := by
  simp only [answersOf, h]

theorem awardsOf_congr (h : ∀ i, T' (.award i) = T (.award i)) : awardsOf T' b = awardsOf T b := by
  simp only [awardsOf, h]

theorem answersOf_update {r : AnswerRow} :
    answersOf (Function.update T (.answer a) (some (.answer r))) q =
      if r.questionId = q ∧ r.deleted = false then insert a (answersOf T q)
      else answersOf T q \ {a} := by
  ext a'
  by_cases ha : a' = a
  · subst ha
    split <;> simp_all [answersOf]
  · split <;> simp [answersOf, ha]

theorem awardsOf_update {g : Grant} :
    awardsOf (Function.update T (.award i) (some (.award g))) b =
      if g.badgeId = b then insert i (awardsOf T b) else awardsOf T b \ {i} := by
  ext i'
  by_cases hi : i' = i
  · subst hi
    split <;> simp_all [awardsOf]
  · split <;> simp [awardsOf, hi]

/-! ## One call -/

/-- A call that makes or deletes an answer, or awards a badge. -/
inductive Call where
  | create (a : NewAnswer)
  | remove (id : String)
  | award (g : Grant)
deriving DecidableEq

namespace Call

/-- The program of a call. Nobody waits for what it is answered. -/
def program : Call → Storage Unit
  | create a => do
    let _ ← (createAnswer a).run
    return ()
  | remove id => do
    let _ ← (deleteAnswer id).run
    return ()
  | award g => do
    let _ ← (addAward g).run
    return ()

/-- What a call makes of the tables; `n` is the number that it is given. The question of a deleted
answer and the badge of an award count what they do, if they are there. -/
def Makes (n : Int) (T T' : Tables) : Call → Prop
  | create a => ∃ r, T (.question a.questionId) = some (.question r) ∧
      T (.answer (ObjectKind.answer.objectId n)) = none ∧
      T' = Function.update
        (Function.update T (.question a.questionId) (some (.question r.countAnswer)))
        (.answer (ObjectKind.answer.objectId n)) (some (.answer { a with }))
  | remove id => ∃ r, T (.answer id) = some (.answer r) ∧ r.deleted = false ∧
      T' = alter (Function.update T (.answer id) (some (.answer r.remove))) (.question r.questionId)
        (Row.onQuestion fun q => some (q.uncountAnswer id))
  | award g => T (.award n) = none ∧
      T' = alter (Function.update T (.award n) (some (.award g))) (.badge g.badgeId) Row.countAward

end Call

theorem counted_create {r : QuestionRow} {s : NewAnswer} (hT : Counted T)
    (hq : T (.question s.questionId) = some (.question r)) (ha : T (.answer a) = none) :
    Counted (Function.update
      (Function.update T (.question s.questionId) (some (.question r.countAnswer)))
      (.answer a) (some (.answer { s with }))) where
  answers p r' hr' := by
    have hnew : a ∉ answersOf T p := by simp [answersOf, ha]
    rw [answersOf_update, answersOf_congr (T := T) (by simp)]
    by_cases hp : p = s.questionId
    · subst hp
      have hr : r' = r.countAnswer := by simpa [question?, Row.question?, eq_comm] using hr'
      rw [if_pos ⟨rfl, rfl⟩, hr]
      exact (hT.answers _ r (question?_eq_some.mpr hq)).insert hnew
    · have hr : question? T p = some r' := by simpa [question?, hp] using hr'
      rw [if_neg (fun h => hp h.1.symm), Set.sdiff_singleton_eq_self hnew]
      exact hT.answers p r' hr
  awards b n hn := by
    rw [awardsOf_congr (T := T) (by simp)]
    exact hT.awards b n (by simpa [badge?] using hn)

theorem answers_uncountAnswer {r : QuestionRow} (h : HasCount (answersOf T q) r.answers)
    (ha : a ∈ answersOf T q) : 1 ≤ r.answers ∧ (r.uncountAnswer a).answers = r.answers - 1 := by
  obtain ⟨hone, -⟩ := h.remove ha
  refine ⟨hone, ?_⟩
  change max (r.answers - 1) 0 = r.answers - 1
  omega

/-- A deleted answer, uncounted by its question. -/
theorem counted_remove {r : AnswerRow} (hT : Counted T) (ha : T (.answer a) = some (.answer r))
    (hd : r.deleted = false) :
    Counted (alter (Function.update T (.answer a) (some (.answer r.remove)))
      (.question r.questionId) (Row.onQuestion fun q => some (q.uncountAnswer a))) where
  answers p r' hr' := by
    have hmem : ∀ q, a ∈ answersOf T q ↔ r.questionId = q := fun q => by
      rw [mem_answersOf ha, and_iff_left hd]
    have hothers : ∀ id, question? (Function.update T (.answer a) (some (.answer r.remove))) id =
        question? T id := fun id => by simp [question?]
    rw [question?_alter, hothers, hothers] at hr'
    rw [answersOf_congr fun _ => alter_of_ne (by simp), answersOf_update,
      if_neg (by simp [AnswerRow.remove])]
    by_cases hp : p = r.questionId
    · rw [if_pos hp, ← hp] at hr'
      cases hq : question? T p with
      | none => simp [hq] at hr'
      | some q =>
        obtain rfl : q.uncountAnswer a = r' := by simpa [hq] using hr'
        have hcount := hT.answers p q hq
        rw [(answers_uncountAnswer hcount ((hmem p).mpr hp.symm)).2]
        exact (hcount.remove ((hmem p).mpr hp.symm)).2
    · rw [if_neg hp] at hr'
      rw [Set.sdiff_singleton_eq_self fun h => hp ((hmem p).mp h).symm]
      exact hT.answers p r' hr'
  awards b n hn := by
    have hrow : ∀ k, (∀ q, k ≠ .question q) → (∀ a, k ≠ .answer a) →
        alter (Function.update T (.answer a) (some (.answer r.remove))) (.question r.questionId)
          (Row.onQuestion fun q => some (q.uncountAnswer a)) k = T k := fun k hq ha => by
      rw [alter_of_ne (hq _), Function.update_of_ne (ha _)]
    rw [awardsOf_congr fun i => hrow (.award i) (by simp) (by simp)]
    rw [badge?, hrow _ (by simp) (by simp)] at hn
    exact hT.awards b n hn

theorem counted_award {g : Grant} (hT : Counted T) (hi : T (.award i) = none) :
    Counted (alter (Function.update T (.award i) (some (.award g))) (.badge g.badgeId)
      Row.countAward) where
  answers p r hr := by
    have hrow : ∀ k, (∀ b, k ≠ .badge b) → (∀ i, k ≠ .award i) →
        alter (Function.update T (.award i) (some (.award g))) (.badge g.badgeId)
          Row.countAward k = T k := fun k hb hi => by
      rw [alter_of_ne (hb _), Function.update_of_ne (hi _)]
    rw [answersOf_congr fun a => hrow (.answer a) (by simp) (by simp)]
    rw [question?, hrow _ (by simp) (by simp)] at hr
    exact hT.answers p r hr
  awards b n hn := by
    have hnew : i ∉ awardsOf T b := by simp [awardsOf, hi]
    have hothers : ∀ id, badge? (Function.update T (.award i) (some (.award g))) id =
        badge? T id := fun id => by simp [badge?]
    rw [Row.countAward, badge?_alter, hothers, hothers] at hn
    rw [awardsOf_congr fun _ => alter_of_ne (by simp), awardsOf_update]
    by_cases hb : b = g.badgeId
    · rw [if_pos hb, ← hb] at hn
      rw [if_pos hb.symm]
      cases hc : badge? T b with
      | none => simp [hc] at hn
      | some m =>
        obtain rfl : m + 1 = n := by simpa [hc] using hn
        exact (hT.awards b m hc).insert hnew
    · rw [if_neg hb] at hn
      rw [if_neg (Ne.symm hb), Set.sdiff_singleton_eq_self hnew]
      exact hT.awards b n hn

/-- **A call** keeps what the questions and badges count. -/
theorem counted_of_makes {n : Int} {c : Call} (h : c.Makes n T T') (hT : Counted T) :
    Counted T' := by
  cases c with
  | create a =>
    obtain ⟨r, hq, ha, rfl⟩ := h
    exact counted_create hT hq ha
  | remove id =>
    obtain ⟨r, ha, hd, rfl⟩ := h
    exact counted_remove hT ha hd
  | award g =>
    obtain ⟨hi, rfl⟩ := h
    exact counted_award hT hi

theorem stands_of_makes {n : Int} {c : Call} (h : c.Makes n T T') : stands T' = stands T := by
  cases c with
  | create a =>
    obtain ⟨r, hq, -, rfl⟩ := h
    rw [stands_update (by simp [standing, stands]),
      stands_update (by simp [standing, stands, hq, Row.question?])]
  | remove id =>
    obtain ⟨r, -, -, rfl⟩ := h
    rw [stands_alter_question, stands_update (by simp [standing, stands])]
  | award g =>
    obtain ⟨-, rfl⟩ := h
    rw [stands_alter, stands_update (by simp [standing, stands])]
    intro w hw
    obtain ⟨n, hv, rfl⟩ := Row.bind_countAward_eq_some.mp hw
    rw [stands, hv]
    rfl

/-! ## One call among others -/

/-- A call at its place makes what it should. -/
def MakesAt (ch : Choices) (cs : List Call) (i : Nat) (t : Rows Key Tables.Row) : Prop :=
  ∃ c, cs[i]? = some c ∧ c.Makes (ch.number i) t.committed (t.publish i).committed

/-- The terms on which calls run at once. -/
def terms (ch : Choices) (cs : List Call) : Terms Key Tables.Row :=
  Tables.terms (MakesAt ch cs) fun _ _ ⟨_, _, h⟩ => stands_of_makes h

section Serves

variable {ch : Choices} {cs : List Call} {j : Nat} {t : Rows Key Tables.Row}

theorem serves_create {s : NewAnswer} (hc : cs[j]? = some (.create s)) (ht : Database.Ended j t) :
    (database ch).Serves j (terms ch cs) (fun _ => Database.Ended j) (createAnswer s).run t := by
  refine Database.serves_transaction ht fun t₁ hr₁ => ?_
  have hg₁ : t₁.grip j = Grips.nothing := hr₁.1.trans ht
  refine Database.Serves.bind_except (Database.serves_executeOn (serves_alter_new rfl hg₁ rfl
    (fun _ _ _ _ h => (h rfl).elim) fun t₂ base v hg₂ hv _ => ?_))
  obtain ⟨r, rfl, -, rfl⟩ := Row.bind_editQuestion_eq_some.mp hv
  refine Database.Serves.bind_except (serves_nextId fun t₃ hr₃ => ?_)
  refine Database.Serves.bind_except (Database.serves_execute (serves_insert rfl
    (hr₃.1.trans hg₂) (Grips.hold_of_ne (by simp)) fun t₄ hg₄ => ?_))
  refine Database.serves_pure fun t₅ hr₅ => ⟨_, hc, r, ?_⟩
  have hg₅ := hr₅.1.trans hg₄
  refine ⟨Rows.committed_of_hold_of_ne hg₅ (by simp), Rows.committed_of_hold hg₅, ?_⟩
  rw [Rows.committed_publish_eq_onto, hg₅]
  simp only [Grips.hold_onto, Grips.nothing_onto]
  rfl

theorem serves_remove {id : String} (hc : cs[j]? = some (.remove id)) (ht : Database.Ended j t) :
    (database ch).Serves j (terms ch cs) (fun _ => Database.Ended j) (deleteAnswer id).run t := by
  refine Database.serves_transaction ht fun t₁ hr₁ => ?_
  have hg₁ : t₁.grip j = Grips.nothing := hr₁.1.trans ht
  refine Database.Serves.bind_except (Database.serves_fetchOn (serves_alter_new rfl hg₁ rfl
    (fun _ _ _ _ _ _ _ h => nomatch h) fun t₂ base v hg₂ hv row rest q hrow hq => ?_))
  obtain ⟨r, rfl, hd, rfl⟩ := Row.bind_editAnswer_eq_some.mp hv
  obtain rfl : r.questionId = q := by
    cases hrow
    cases hq
    rfl
  refine Database.Serves.bind_except (serves_alter_last rfl hg₂ (Grips.hold_of_ne (by simp))
    (fun _ => bind_onQuestion_eq_none_iff) fun _ t₃ h => Database.serves_pure fun t₄ hr₄ => ?_)
  obtain ⟨hg₄, hpublish⟩ := h t₄ hr₄
  rw [Grips.hold_onto, Grips.nothing_onto] at hpublish
  have ha : t₄.committed (.answer id) = some (.answer r) :=
    Rows.committed_eq_base ((hg₄ (.answer id) (by simp)).trans Grips.hold_self)
  exact ⟨_, hc, r, ha, hd, hpublish⟩

theorem serves_award {g : Grant} (hc : cs[j]? = some (.award g)) (ht : Database.Ended j t) :
    (database ch).Serves j (terms ch cs) (fun _ => Database.Ended j) (addAward g).run t := by
  refine Database.serves_transaction ht fun t₁ hr₁ => ?_
  have hg₁ : t₁.grip j = Grips.nothing := hr₁.1.trans ht
  refine Database.Serves.bind_except (Database.serves_fetchOne (serves_insert rfl hg₁ rfl
    fun t₂ hg₂ _ _ _ _ _ => ?_))
  refine Database.Serves.bind_except (serves_alter_last rfl hg₂ (Grips.hold_of_ne (by simp))
    (fun _ => bind_countAward_eq_none_iff) fun _ t₃ h => Database.serves_pure fun t₄ hr₄ => ?_)
  obtain ⟨hg₄, hpublish⟩ := h t₄ hr₄
  rw [Grips.hold_onto, Grips.nothing_onto] at hpublish
  have hnew : t₄.committed (.award (ch.number j)) = none :=
    Rows.committed_eq_base ((hg₄ (.award (ch.number j)) (by simp)).trans Grips.hold_self)
  exact ⟨_, hc, hnew, hpublish⟩

/-- **A call** makes what it should whenever it is committed. -/
theorem Call.serves {c : Call} (hc : cs[j]? = some c) (ht : Database.Ended j t) :
    (database ch).Serves j (terms ch cs) (fun _ => Database.Ended j) c.program t := by
  cases c with
  | create a => exact Database.Serves.bind ((serves_create hc ht).mono fun _ _ h => h)
  | remove id => exact Database.Serves.bind ((serves_remove hc ht).mono fun _ _ h => h)
  | award g => exact Database.Serves.bind ((serves_award hc ht).mono fun _ _ h => h)

end Serves

/-! ## Deletions of one answer -/

/-- An answer is deleted. -/
def Removed (T : Tables) (id : String) : Prop :=
  ∃ r, T (.answer id) = some (.answer r) ∧ r.deleted = true

/-- An answer that was not deleted is uncounted by its question, exactly once: the question counted
at least one. -/
def Uncounts (id : String) (T T' : Tables) : Prop :=
  ∃ r, T (.answer id) = some (.answer r) ∧ r.deleted = false ∧
    ∀ q, question? T r.questionId = some q → 1 ≤ q.answers ∧
      question? T' r.questionId = some { q.uncountAnswer id with answers := q.answers - 1 }

theorem uncounts_of_makes {n : Int} {id : String} (hT : Counted T)
    (h : (Call.remove id).Makes n T T') : Uncounts id T T' := by
  obtain ⟨r, ha, hd, rfl⟩ := h
  refine ⟨r, ha, hd, fun q hq => ?_⟩
  obtain ⟨hone, hless⟩ := answers_uncountAnswer (hT.answers _ q hq) ((mem_answersOf ha).mpr ⟨rfl, hd⟩)
  have hq' : question? (Function.update T (.answer id) (some (.answer r.remove))) r.questionId =
      some q := by simpa [question?] using hq
  refine ⟨hone, ?_⟩
  rw [question?_alter, if_pos rfl, hq', ← hless]
  rfl

theorem removed_of_makes {n : Int} {id : String} (h : (Call.remove id).Makes n T T') :
    Removed T' id := by
  obtain ⟨r, -, -, rfl⟩ := h
  refine ⟨r.remove, ?_, rfl⟩
  rw [alter_of_ne (by simp), Function.update_self]

theorem removed_kept {n : Int} {id : String} {c : Call} (h : c.Makes n T T') (hr : Removed T id) :
    Removed T' id := by
  obtain ⟨r, ha, hd⟩ := hr
  refine ⟨r, ?_, hd⟩
  cases c with
  | create s =>
    obtain ⟨q, -, hnew, rfl⟩ := h
    have hne : Key.answer id ≠ .answer (ObjectKind.answer.objectId n) := by
      intro he
      rw [← he, ha] at hnew
      cases hnew
    rw [Function.update_of_ne hne, Function.update_of_ne (by simp), ha]
  | remove id' =>
    obtain ⟨r', ha', hd', rfl⟩ := h
    have hne : Key.answer id ≠ .answer id' := by
      intro he
      rw [← he, ha] at ha'
      cases ha'
      rw [hd] at hd'
      cases hd'
    rw [alter_of_ne (by simp), Function.update_of_ne hne, ha]
  | award g =>
    obtain ⟨-, rfl⟩ := h
    rw [alter_of_ne (by simp), Function.update_of_ne (by simp), ha]

theorem not_makes_of_removed {n : Int} {id : String} (hr : Removed T id) :
    ¬(Call.remove id).Makes n T T' := by
  rintro ⟨r, ha, hd, -⟩
  obtain ⟨r', ha', hd'⟩ := hr
  rw [ha] at ha'
  cases ha'
  rw [hd] at hd'
  cases hd'

/-! ## Many calls -/

/-- Calls at once, on tables of which nobody holds a row yet. -/
def calls (T : Tables) (cs : List Call) : System Key Tables.Row Unit :=
  ⟨⟨T, fun _ => none⟩, cs.map Call.program⟩

theorem calls_serves (ch : Choices) (T : Tables) (cs : List Call) :
    (calls T cs).Serves (database ch) (terms ch cs) :=
  System.serves_map fun _ _ _ hc ht => Call.serves hc ht

/-- The deletions of an answer among some commits. -/
def removals (cs : List Call) (id : String) (commits : List (Nat × Rows Key Tables.Row)) :
    List (Nat × Rows Key Tables.Row) :=
  commits.filter fun c => cs[c.1]? = some (.remove id)

/-- What is true after some commits: everything is counted, and an answer has been deleted at most
once, and uncounted by its question then. -/
structure Kept (cs : List Call) (id : String) (commits : List (Nat × Rows Key Tables.Row))
    (T : Tables) : Prop where
  counted : Counted T
  once : (removals cs id commits).length ≤ 1
  uncounts : ∀ c ∈ removals cs id commits, Uncounts id c.2.committed (c.2.publish c.1).committed
  removed : removals cs id commits ≠ [] → Removed T id

/-- **A commit** keeps that. -/
theorem kept_publish {ch : Choices} {cs : List Call} {id : String} {j : Nat}
    {t : Rows Key Tables.Row} {l : List (Nat × Rows Key Tables.Row)} (h : MakesAt ch cs j t)
    (hl : Kept cs id l t.committed) : Kept cs id (l ++ [(j, t)]) (t.publish j).committed := by
  obtain ⟨c, hc, hmakes⟩ := h
  have hcounted := counted_of_makes hmakes hl.counted
  by_cases hj : c = .remove id
  · -- the first deletion of the answer
    subst hj
    have hnone : removals cs id l = [] := by
      by_contra hne
      exact not_makes_of_removed (hl.removed hne) hmakes
    have hone : removals cs id (l ++ [(j, t)]) = [(j, t)] := by
      simp only [removals] at hnone
      simp [removals, hnone, hc]
    refine ⟨hcounted, by simp [hone], ?_, fun _ => removed_of_makes hmakes⟩
    rw [hone]
    intro d hd
    obtain rfl := List.mem_singleton.mp hd
    exact uncounts_of_makes hl.counted hmakes
  · have hsame : removals cs id (l ++ [(j, t)]) = removals cs id l := by
      simp [removals, hc, hj]
    refine ⟨hcounted, ?_, ?_, ?_⟩
    · rw [hsame]
      exact hl.once
    · rw [hsame]
      exact hl.uncounts
    · rw [hsame]
      exact fun hne => removed_kept hmakes (hl.removed hne)

/-- **Every question goes on to count its answers that are not deleted, and every badge its awards,**
over any number of calls at once, in any order of their operations and whatever fails. However often
an answer is deleted, its question uncounts it once, and counted at least one until then. -/
theorem counts_kept {ch : Choices} {cs : List Call} {T : Tables} {turns : List (Nat × Turn)}
    {s : System Key Tables.Row Unit} (hT : Counted T)
    (h : (calls T cs).run (database ch) turns = some s) :
    Counted s.rows.committed ∧ ∀ id,
      (removals cs id ((calls T cs).commits (database ch) turns)).length ≤ 1 ∧
      ∀ c ∈ removals cs id ((calls T cs).commits (database ch) turns),
        Uncounts id c.2.committed (c.2.publish c.1).committed := by
  have hkept : ∀ id, Kept cs id ((calls T cs).commits (database ch) turns) s.rows.committed := by
    intro id
    have hstart : Kept cs id [] (calls T cs).rows.committed := ⟨hT, by simp [removals],
      by simp [removals], by simp [removals]⟩
    exact System.run_commits (Kept cs id) (fun l j t hm hl => kept_publish hm hl)
      (calls_serves ch T cs) hstart h
  exact ⟨(hkept "").counted, fun id => ⟨(hkept id).once, (hkept id).uncounts⟩⟩

/-- A question without answers, and a badge that nobody has. -/
def board : Tables
  | .question "10010000000000001" =>
    some (.question { userId := "asker", title := "Why?", content := "" })
  | .badge 1 => some (.badge 0)
  | _ => none

/-- An answer, which two then delete at once, and an award. -/
def boardCalls : List Call :=
  [.create { questionId := "10010000000000001", userId := "helper", content := "So." },
    .remove "10020000000000001", .remove "10020000000000001", .award ⟨"helper", 1, ""⟩]

/-- Both deletions begin before either is carried out. -/
def boardTurns : List (Nat × Turn) :=
  [0, 3, 0, 0, 3, 0, 0, 1, 2, 1, 3, 1, 1, 2, 2, 3].map (·, .done)

theorem counted_board : Counted board where
  answers q r hr := by
    have hnone : answersOf board q = ∅ := by simp [answersOf, board]
    have hr' := question?_eq_some.mp hr
    simp only [board] at hr'
    split at hr' <;> cases hr'
    rw [hnone]
    exact HasCount.empty
  awards b n hn := by
    have hnone : awardsOf board b = ∅ := by simp [awardsOf, board]
    have hn' := badge?_eq_some.mp hn
    simp only [board] at hn'
    split at hn' <;> cases hn'
    rw [hnone]
    exact HasCount.empty

/-- The question has counted one answer and uncounted it once. -/
theorem counts_kept_board : Counted board ∧ ∃ s,
    (calls board boardCalls).run (database ⟨fun _ => [], fun _ => 1⟩) boardTurns = some s ∧
      (question? s.rows.committed "10010000000000001").map QuestionRow.answers = some 0 ∧
      badge? s.rows.committed 1 = some 1 ∧ Counted s.rows.committed ∧
      (removals boardCalls "10020000000000001" ((calls board boardCalls).commits
        (database ⟨fun _ => [], fun _ => 1⟩) boardTurns)).length ≤ 1 := by
  have hrun : ((calls board boardCalls).run (database ⟨fun _ => [], fun _ => 1⟩) boardTurns).any
      (fun s => (question? s.rows.committed "10010000000000001").map QuestionRow.answers = some 0 ∧
        badge? s.rows.committed 1 = some 1) = true := by decide +kernel
  obtain ⟨s, hs, hend⟩ := (Option.any_eq_true _ _).mp hrun
  obtain ⟨hquestion, hbadge⟩ := of_decide_eq_true hend
  obtain ⟨hcounted, hremovals⟩ := counts_kept counted_board hs
  exact ⟨counted_board, s, hs, hquestion, hbadge, hcounted, (hremovals _).1⟩

end Forum.Counts
