import Forum.Badge.Rule
import Forum.Proofs.Decimal
import Forum.Proofs.Transcript

/-!
# How badges are judged

An event is held against the badges that are listed for it, one after the other. Each is judged by
the rule that it names, and some rules read a count. What comes of an event is told by what was read,
whatever the counts were answered.

* `Badge.Threshold`: the threshold of a badge, and how it may be written;
* `BadgeRule.AtOnce`, `BadgeRule.Needs`: the rules that need no count, and those that need one;
* `BadgeRule.Judged`, **`plays_proposeFor`**: what is read for a badge, and what is proposed for it;
* `BadgeRule.Evaluated`, **`plays_evaluate`**: the same for an event;
* **`evaluate_by_rules`**: every evaluation, and when it fails.
-/

namespace Forum

/-! ## Thresholds -/

namespace Badge

/-- The badge has this threshold: as an integer of 64 bits, or as a text that spells one, with blanks
around it or not. -/
inductive Threshold (b : Badge) : Int → Prop where
  | number {n : Int} : b.param.get? "amount" = some (.number (.int n)) →
      Text.Width.int64.lo ≤ n → n ≤ Text.Width.int64.hi → Threshold b n
  | text {s : String} {n : Int} : b.param.get? "amount" = some (.text s) →
      Text.Width.int64.read (Text.trim s.toList) = some n → Threshold b n

theorem amount?_eq_some_iff {b : Badge} {n : Int} : b.amount? = some n ↔ b.Threshold n := by
  constructor
  · intro h
    unfold amount? amountOf? at h
    split at h
    next k hk =>
      obtain ⟨rfl, hlo, hhi⟩ := Text.Width.fit_eq_some_iff.mp h
      exact .number hk hlo hhi
    next s hs => exact .text hs h
    next => cases h
  · rintro (⟨hget, hlo, hhi⟩ | ⟨hget, hread⟩)
    · rw [amount?, amountOf?, hget]
      exact Text.Width.fit_eq_some_iff.mpr ⟨rfl, hlo, hhi⟩
    · rw [amount?, amountOf?, hget]
      exact hread

example : amountOf? (.object [("amount", .text " 10 ")]) = some 10 := by decide

end Badge

namespace BadgeRule

theorem ofName?_eq_some_iff {s : String} {r : BadgeRule} : ofName? s = some r ↔ s = r.name := by
  constructor
  · intro h
    have hname := List.find?_some (p := fun r : BadgeRule => decide (r.name = s)) h
    exact (of_decide_eq_true hname).symm
  · rintro rfl
    cases r <;> decide

/-! ## Counts -/

/-- A count that is held against a threshold: the votes of an object, or the accepted answers of a
user. -/
inductive Count where
  | votes (object : String)
  | accepted (user : String)

/-- The reading of a count. -/
def Count.read : Count → Fallible Int
  | votes object => Service.call (.voteCount object)
  | accepted user => Service.call (.acceptedCount user)

/-- A count that was read. -/
def Count.answered : Count → Except ServiceError Int → Exchange Effect.Answer
  | votes object, reply => ⟨.call (.voteCount object), reply⟩
  | accepted user, reply => ⟨.call (.acceptedCount user), reply⟩

theorem plays_read {c : Count} {t : Transcript Effect.Answer} {r : Except ServiceError Int} :
    c.read.run.Plays t r ↔ t = [c.answered r] := by
  cases c <;> exact Program.plays_perform

/-! ## A badge -/

/-- The rules for what a user does the first time. -/
def firsts : List BadgeRule :=
  [firstPost, firstPostEdit, firstFlaggedPost, firstUpVote, firstAcceptAnswer]

/-- The badge is for what a user does the first time, and the event tells who did it. The award is
under the key of the object that was acted on, if there is one. -/
inductive AtOnce (e : Event) (badge : Badge) : Grant → Prop where
  | first {r : BadgeRule} : badge.handler = r.name → r ∈ firsts → e.userId ≠ "" →
      AtOnce e badge ⟨e.userId, badge.id, e.targetId?.getD ""⟩

/-- The badge is awarded when a count reaches an amount: the votes of a question, the votes of an
answer, or the accepted answers of a user. The event is about this object, and tells whose it is. -/
inductive Needs (e : Event) (badge : Badge) : Count → Int → Grant → Prop where
  | question {id owner : String} {amount : Int} : badge.handler = name .reachQuestionVote →
      e.answerId = none → e.commentId = none → e.questionId = some id →
      e.questionUserId = some owner → badge.Threshold amount →
      Needs e badge (.votes id) amount ⟨owner, badge.id, id⟩
  | answer {id owner : String} {amount : Int} : badge.handler = name .reachAnswerVote →
      e.commentId = none → e.answerId = some id → e.answerUserId = some owner →
      badge.Threshold amount → Needs e badge (.votes id) amount ⟨owner, badge.id, id⟩
  | accepted {id owner : String} {amount : Int} : badge.handler = name .reachAnswerAcceptedAmount →
      e.answerId = some id → e.answerUserId = some owner → badge.Threshold amount →
      Needs e badge (.accepted owner) amount ⟨owner, badge.id, id⟩

/-- How a badge is judged for an event: what is read, and what is proposed. A count is read once, and
only if all else is known. -/
inductive Judged (e : Event) (badge : Badge) :
    Transcript Effect.Answer → Except ServiceError (Option Grant) → Prop where
  | passed : (∀ g, ¬ AtOnce e badge g) → (∀ c amount g, ¬ Needs e badge c amount g) →
      Judged e badge [] (.ok none)
  | proposed {g : Grant} : AtOnce e badge g → Judged e badge [] (.ok (some g))
  | counted {c : Count} {amount n : Int} {g : Grant} : Needs e badge c amount g →
      Judged e badge [c.answered (.ok n)] (.ok (if amount ≤ n then some g else none))
  | failed {c : Count} {amount : Int} {g : Grant} {err : ServiceError} : Needs e badge c amount g →
      Judged e badge [c.answered (.error err)] (.error err)

section Proposals

variable {e : Event} {badge : Badge} {g : Grant} {c : Count} {amount : Int}
  {t : Transcript Effect.Answer}

theorem proposeFor_of_name {r : BadgeRule} (h : badge.handler = r.name) :
    proposeFor e badge = r.propose badge e := by
  rw [proposeFor, ofName?_eq_some_iff.mpr h]

theorem proposeFor_of_atOnce (h : AtOnce e badge g) : proposeFor e badge = pure (some g) := by
  obtain ⟨hname, hfirst, hne⟩ := h
  rw [proposeFor_of_name hname]
  simp only [firsts, List.mem_cons, List.not_mem_nil, or_false] at hfirst
  rcases hfirst with rfl | rfl | rfl | rfl | rfl <;> rw [propose, if_neg hne]

theorem proposeFor_of_needs (h : Needs e badge c amount g) :
    proposeFor e badge = c.read >>= fun n => pure (if amount ≤ n then some g else none) := by
  cases h with
  | question hname hanswer hcomment hid howner hamount =>
    rw [proposeFor_of_name hname]
    simp [propose, reach, hanswer, hcomment, hid, howner, Badge.amount?_eq_some_iff.mpr hamount,
      Count.read]
  | answer hname hcomment hid howner hamount =>
    rw [proposeFor_of_name hname]
    simp [propose, reach, hcomment, hid, howner, Badge.amount?_eq_some_iff.mpr hamount, Count.read]
  | accepted hname hid howner hamount =>
    rw [proposeFor_of_name hname]
    simp [propose, reach, hid, howner, Badge.amount?_eq_some_iff.mpr hamount, Count.read]

theorem reach_of_missing {object? owner? : Option String} {count : String → String → Fallible Int}
    (h : ∀ object owner amount, object? = some object → owner? = some owner →
      ¬ badge.Threshold amount) : reach badge object? owner? count = pure none := by
  unfold reach
  split
  next object owner amount hamount =>
    exact absurd (Badge.amount?_eq_some_iff.mp hamount) (h object owner amount rfl rfl)
  next => rfl

theorem proposeFor_of_neither (hfirst : ∀ g, ¬ AtOnce e badge g)
    (hneeds : ∀ c amount g, ¬ Needs e badge c amount g) : proposeFor e badge = pure none := by
  cases hname : ofName? badge.handler with
  | none => rw [proposeFor, hname]
  | some r =>
    have hname := ofName?_eq_some_iff.mp hname
    rw [proposeFor_of_name hname]
    cases r with
    | firstPost | firstPostEdit | firstFlaggedPost | firstUpVote | firstAcceptAnswer =>
      by_cases hne : e.userId = ""
      · rw [propose, if_pos hne]
      · exact absurd (.first hname (by decide) hne) (hfirst _)
    | reachQuestionVote =>
      rw [propose]
      split_ifs with hother
      · rfl
      · rw [not_or, Option.not_isSome_iff_eq_none, Option.not_isSome_iff_eq_none] at hother
        exact reach_of_missing fun _ _ _ hid howner hamount =>
          hneeds _ _ _ (.question hname hother.1 hother.2 hid howner hamount)
    | reachAnswerVote =>
      rw [propose]
      split_ifs with hother
      · rfl
      · rw [Option.not_isSome_iff_eq_none] at hother
        exact reach_of_missing fun _ _ _ hid howner hamount =>
          hneeds _ _ _ (.answer hname hother hid howner hamount)
    | reachAnswerAcceptedAmount =>
      exact reach_of_missing fun _ _ _ hid howner hamount =>
        hneeds _ _ _ (.accepted hname hid howner hamount)

theorem plays_counted {r : Except ServiceError (Option Grant)} :
    (c.read >>= fun n => pure (if amount ≤ n then some g else none)).run.Plays t r ↔
      ∃ reply, t = [c.answered reply] ∧
        reply.map (fun n => if amount ≤ n then some g else none) = r := by
  rw [Program.plays_map_except]
  simp only [plays_read]

/-- **The transcripts of a badge.** -/
theorem plays_proposeFor {r : Except ServiceError (Option Grant)} :
    (proposeFor e badge).run.Plays t r ↔ Judged e badge t r := by
  constructor
  · intro h
    by_cases hfirst : ∃ g, AtOnce e badge g
    · obtain ⟨g, hg⟩ := hfirst
      rw [proposeFor_of_atOnce hg] at h
      obtain ⟨rfl, rfl⟩ := h
      exact .proposed hg
    by_cases hneeds : ∃ c amount g, Needs e badge c amount g
    · obtain ⟨c, amount, g, hg⟩ := hneeds
      rw [proposeFor_of_needs hg] at h
      obtain ⟨_ | n, rfl, rfl⟩ := plays_counted.mp h
      · exact .failed hg
      · exact .counted hg
    · rw [proposeFor_of_neither (fun g hg => hfirst ⟨g, hg⟩)
        fun c amount g hg => hneeds ⟨c, amount, g, hg⟩] at h
      obtain ⟨rfl, rfl⟩ := h
      exact .passed (fun g hg => hfirst ⟨g, hg⟩) fun c amount g hg => hneeds ⟨c, amount, g, hg⟩
  · intro h
    cases h with
    | passed hfirst hneeds =>
      rw [proposeFor_of_neither hfirst hneeds]
      exact ⟨rfl, rfl⟩
    | proposed hg =>
      rw [proposeFor_of_atOnce hg]
      exact ⟨rfl, rfl⟩
    | counted hg | failed hg =>
      rw [proposeFor_of_needs hg]
      exact plays_counted.mpr ⟨_, rfl, rfl⟩

end Proposals

/-! ## An event -/

/-- What comes of an event. Without a rule nothing is read. Else the badges of its rules are listed
first, and then each is judged in turn, up to the first failure. -/
inductive Evaluated (e : Event) :
    Transcript Effect.Answer → Except ServiceError (List Grant) → Prop where
  | noRules : ofEvent e.type = [] → Evaluated e [] (.ok [])
  | unlisted {err : ServiceError} : ofEvent e.type ≠ [] →
      Evaluated e [⟨.call (.badgesOfHandlers ((ofEvent e.type).map name)), .error err⟩] (.error err)
  | listed {badges : List Badge} {t : Transcript Effect.Answer}
      {r : Except ServiceError (List (Option Grant))} : ofEvent e.type ≠ [] →
      InTurn (Judged e) badges t r →
      Evaluated e (⟨.call (.badgesOfHandlers ((ofEvent e.type).map name)), .ok badges⟩ :: t)
        (r.map (·.filterMap id))

variable {e : Event} {t : Transcript Effect.Answer}

/-- **The transcripts of an event.** -/
theorem plays_evaluate {r : Except ServiceError (List Grant)} :
    (evaluate e).run.Plays t r ↔ Evaluated e t r := by
  by_cases hrules : ofEvent e.type = []
  · have hevaluate : evaluate e = pure [] := by
      unfold evaluate
      rw [hrules]
      rfl
    rw [hevaluate]
    constructor
    · rintro ⟨rfl, rfl⟩
      exact .noRules hrules
    · rintro (_ | ⟨hne⟩ | ⟨hne⟩)
      · exact ⟨rfl, rfl⟩
      all_goals exact absurd hrules hne
  · have hevaluate : evaluate e =
        Service.call (.badgesOfHandlers ((ofEvent e.type).map name)) >>= fun badges =>
          badges.mapM (proposeFor e) >>= fun found => pure (found.filterMap id) := by
      unfold evaluate
      simp [hrules]
    have hlist {t : Transcript Effect.Answer} {r : Except ServiceError (List Badge)} :
        (Service.call (.badgesOfHandlers ((ofEvent e.type).map name))).run.Plays t r ↔
          t = [⟨.call (.badgesOfHandlers ((ofEvent e.type).map name)), r⟩] :=
      Program.plays_perform
    have hjudged : (fun badge => (proposeFor e badge).run.Plays) = Judged e := by
      funext badge t r
      exact propext plays_proposeFor
    rw [hevaluate, Program.plays_bind_except]
    simp only [hlist, Program.plays_map_except, Program.plays_mapM, hjudged]
    constructor
    · rintro (⟨err, rfl, rfl⟩ | ⟨_, badges, t, rfl, ⟨r, hturn, rfl⟩, rfl⟩)
      · exact .unlisted hrules
      · exact .listed hrules hturn
    · intro h
      cases h with
      | noRules hnil => exact absurd hnil hrules
      | unlisted _ => exact .inl ⟨_, rfl, rfl⟩
      | listed _ hturn => exact .inr ⟨_, _, _, rfl, ⟨_, hturn, rfl⟩, rfl⟩

/-! ## Failures -/

/-- A call that failed. -/
def Failed : Exchange Effect.Answer → Prop
  | ⟨.call _, reply⟩ => ∃ err, reply = .error err
  | _ => False

theorem failed_answered {c : Count} {reply : Except ServiceError Int} :
    Failed (c.answered reply) ↔ ∃ err, reply = .error err := by
  cases c <;> exact Iff.rfl

theorem Judged.fails_iff {badge : Badge} {r : Except ServiceError (Option Grant)}
    (h : Judged e badge t r) : (∃ err, r = .error err) ↔ ∃ x ∈ t, Failed x := by
  cases h with
  | passed | proposed => simp
  | counted | failed => simp [failed_answered]

theorem Evaluated.fails_iff {r : Except ServiceError (List Grant)} (h : Evaluated e t r) :
    (∃ err, r = .error err) ↔ ∃ x ∈ t, Failed x := by
  cases h with
  | noRules => simp
  | unlisted => simp [Failed]
  | listed _ hturn =>
    have hlisted : ∀ badges, ¬ Failed ⟨.call (.badgesOfHandlers ((ofEvent e.type).map name)),
        .ok badges⟩ := by
      simp [Failed]
    simp only [map_fails_iff, hturn.fails_iff Judged.fails_iff, List.mem_cons, exists_eq_or_imp,
      hlisted, false_or]

/-- **Every evaluation**, however its calls are answered, goes by the rules of the badges, and it
fails exactly if one of its calls does. -/
theorem evaluate_by_rules (e : Event) (s : Script Effect.Answer) :
    Evaluated e (s.run (evaluate e).run).2 (s.run (evaluate e).run).1 ∧
      ((∃ err, (s.run (evaluate e).run).1 = .error err) ↔
        ∃ x ∈ (s.run (evaluate e).run).2, Failed x) := by
  have hevaluated := plays_evaluate.mp (s.plays_run (evaluate e).run)
  exact ⟨hevaluated, hevaluated.fails_iff⟩

end BadgeRule

end Forum
