import Forum.Badge.Rule
import Forum.Proofs.Results

/-!
# Proposed awards

The rules of badges propose awards for an event. What they propose depends on the event, on the
badges that are listed for it, and on counts of its objects and of the creator of its answer.

* `BadgeRule.Reads`, **`asks_evaluate`**: the calls that an evaluation can make;
* `World.FailsAsCalled`, **`failsAsCalled_evaluate`**: an evaluation fails only as one of its calls;
* `result_reach_eq_some`: when a count reaches the threshold of a badge;
* **`mem_of_evaluate`**: what is proposed is proposed for a listed badge by its rule.
-/

namespace Forum

/-! ## Failures of calls -/

namespace World

/-- In this world, a failure of the program is the failure of one of its calls. -/
def FailsAsCalled (w : World) {α : Type} (p : Fallible α) : Prop :=
  ∀ err, w.result p.run = .error err → ∃ c, .call c ∈ w.asked p.run ∧ w.answer c = .error err

variable {w : World} {α β : Type}

theorem failsAsCalled_pure (a : α) : w.FailsAsCalled (pure a) := by
  intro err h
  cases h

theorem failsAsCalled_call (c : Call) : w.FailsAsCalled (Service.call c) :=
  fun _ h => ⟨c, List.mem_singleton_self _, h⟩

theorem FailsAsCalled.bind {p : Fallible α} {f : α → Fallible β} (hp : w.FailsAsCalled p)
    (hf : ∀ a, w.FailsAsCalled (f a)) : w.FailsAsCalled (p >>= f) := by
  intro err h
  rw [result_bind_except] at h
  rw [asked_bind_except]
  cases hr : w.result p.run with
  | error err' =>
    rw [hr] at h
    obtain rfl : err' = err := Except.error.inj h
    obtain ⟨c, hc, ha⟩ := hp _ hr
    exact ⟨c, List.mem_append_left _ hc, ha⟩
  | ok a =>
    rw [hr] at h
    obtain ⟨c, hc, ha⟩ := hf a err h
    exact ⟨c, List.mem_append_right _ hc, ha⟩

theorem failsAsCalled_mapM {f : α → Fallible β} (hf : ∀ a, w.FailsAsCalled (f a)) (l : List α) :
    w.FailsAsCalled (l.mapM f) := by
  induction l with
  | nil => exact failsAsCalled_pure _
  | cons a l ih =>
    rw [List.mapM_cons]
    exact (hf a).bind fun _ => ih.bind fun _ => failsAsCalled_pure _

end World

namespace BadgeRule

/-! ## What is read -/

/-- What the evaluation of an event can read: the badges of its rules, the votes of its answer or
else of its question, unless it is about a comment, and the accepted answers of the creator of its
answer. -/
def Reads (e : Event) : Effect → Prop
  | .call (.badgesOfHandlers hs) => hs = (ofEvent e.type).map name
  | .call (.voteCount id) =>
    e.commentId = none ∧ (e.answerId = some id ∨ e.answerId = none ∧ e.questionId = some id)
  | .call (.acceptedCount user) => e.answerUserId = some user
  | _ => False

section Asks

variable {e : Event} {badge : Badge}

theorem asks_reach {P : Effect → Prop} {object? owner? : Option String}
    {count : String → String → Fallible Int} (h : ∀ object owner, object? = some object →
      owner? = some owner → (count object owner).run.Asks P) :
    (reach badge object? owner? count).run.Asks P := by
  unfold reach
  split
  · exact (h _ _ rfl rfl).bind_except fun _ => trivial
  · trivial

theorem asks_propose (r : BadgeRule) : (r.propose badge e).run.Asks (Reads e) := by
  cases r with
  | firstPost | firstPostEdit | firstFlaggedPost | firstUpVote | firstAcceptAnswer => trivial
  | reachQuestionVote =>
    rw [propose]
    split
    · trivial
    next hno =>
      have hans : e.answerId = none := Option.not_isSome_iff_eq_none.mp fun h => hno (.inl h)
      have hcom : e.commentId = none := Option.not_isSome_iff_eq_none.mp fun h => hno (.inr h)
      refine asks_reach fun object owner hobject _ => ⟨⟨hcom, .inr ⟨hans, hobject⟩⟩, ?_⟩
      exact fun _ => trivial
  | reachAnswerVote =>
    rw [propose]
    split
    · trivial
    next hno =>
      have hcom : e.commentId = none := Option.not_isSome_iff_eq_none.mp hno
      refine asks_reach fun object owner hobject _ => ⟨⟨hcom, .inl hobject⟩, ?_⟩
      exact fun _ => trivial
  | reachAnswerAcceptedAmount =>
    exact asks_reach fun object owner _ howner => ⟨howner, fun _ => trivial⟩

theorem asks_proposeFor : (proposeFor e badge).run.Asks (Reads e) := by
  unfold proposeFor
  split
  · exact asks_propose _
  · trivial

/-- **What an evaluation reads**, whatever it is answered. -/
theorem asks_evaluate (e : Event) : (evaluate e).run.Asks (Reads e) := by
  unfold evaluate
  dsimp only
  split
  · trivial
  · have listing : (Service.call (.badgesOfHandlers ((ofEvent e.type).map name))).run.Asks
        (Reads e) := ⟨rfl, fun _ => trivial⟩
    refine listing.bind_except fun badges => ?_
    exact (Program.asks_mapM (fun _ => asks_proposeFor) badges).bind_except fun _ => trivial

end Asks

section Failures

variable {w : World} {e : Event} {badge : Badge}

open World

theorem failsAsCalled_reach {object? owner? : Option String} {count : String → String → Fallible Int}
    (h : ∀ object owner, w.FailsAsCalled (count object owner)) :
    w.FailsAsCalled (reach badge object? owner? count) := by
  unfold reach
  split
  · exact (h _ _).bind fun _ => failsAsCalled_pure _
  · exact failsAsCalled_pure _

theorem failsAsCalled_propose (r : BadgeRule) : w.FailsAsCalled (r.propose badge e) := by
  cases r with
  | firstPost | firstPostEdit | firstFlaggedPost | firstUpVote | firstAcceptAnswer =>
    exact failsAsCalled_pure _
  | reachQuestionVote | reachAnswerVote =>
    rw [propose]
    split
    · exact failsAsCalled_pure _
    · exact failsAsCalled_reach fun _ _ => failsAsCalled_call _
  | reachAnswerAcceptedAmount => exact failsAsCalled_reach fun _ _ => failsAsCalled_call _

theorem failsAsCalled_proposeFor : w.FailsAsCalled (proposeFor e badge) := by
  unfold proposeFor
  split
  · exact failsAsCalled_propose _
  · exact failsAsCalled_pure _

/-- **An evaluation fails only as one of its calls.** -/
theorem failsAsCalled_evaluate (e : Event) : w.FailsAsCalled (evaluate e) := by
  unfold evaluate
  dsimp only
  split
  · exact failsAsCalled_pure _
  · refine (failsAsCalled_call _).bind fun badges => ?_
    exact (failsAsCalled_mapM (fun _ => failsAsCalled_proposeFor) badges).bind fun _ =>
      failsAsCalled_pure _

end Failures

/-! ## What is proposed -/

variable (w : World) {e : Event} {badge : Badge} {g : Grant}

theorem result_reach_eq_some {object? owner? : Option String}
    {count : String → String → Fallible Int} :
    w.result (reach badge object? owner? count).run = .ok (some g) ↔
      ∃ object owner amount n, object? = some object ∧ owner? = some owner ∧
        badge.amount? = some amount ∧ w.result (count object owner).run = .ok n ∧ amount ≤ n ∧
        g = ⟨owner, badge.id, object⟩ := by
  unfold reach
  split
  next object owner amount hamount =>
    rw [World.result_bind_except]
    cases hn : w.result (count object owner).run with
    | error err => simp [hn]
    | ok n =>
      by_cases hle : amount ≤ n
      · simp [hn, hamount, hle, eq_comm]
      · simp [hn, hamount, hle]
  next hno =>
    constructor
    · intro h
      cases h
    · rintro ⟨object, owner, amount, n, rfl, rfl, hamount, -⟩
      exact absurd hamount (hno object owner amount rfl rfl)

theorem result_reach_some {object owner : String} {count : String → String → Fallible Int} :
    w.result (reach badge (some object) (some owner) count).run = .ok (some g) ↔
      (∃ amount n, badge.amount? = some amount ∧ w.result (count object owner).run = .ok n ∧
        amount ≤ n) ∧ g = ⟨owner, badge.id, object⟩ := by
  rw [result_reach_eq_some]
  constructor
  · rintro ⟨_, _, amount, n, hobject, howner, hamount, hn, hle, hg⟩
    cases hobject
    cases howner
    exact ⟨⟨amount, n, hamount, hn, hle⟩, hg⟩
  · rintro ⟨⟨amount, n, hamount, hn, hle⟩, hg⟩
    exact ⟨_, _, amount, n, rfl, rfl, hamount, hn, hle, hg⟩

theorem result_reach_ite {P : Prop} [Decidable P] {object owner : String}
    {count : String → String → Fallible Int} :
    w.result (reach badge (if P then some object else none) (if P then some owner else none)
        count).run = .ok (some g) ↔
      P ∧ (∃ amount n, badge.amount? = some amount ∧ w.result (count object owner).run = .ok n ∧
        amount ≤ n) ∧ g = ⟨owner, badge.id, object⟩ := by
  by_cases hP : P
  · rw [if_pos hP, if_pos hP, result_reach_some]
    exact (and_iff_right hP).symm
  · rw [if_neg hP, result_reach_eq_some]
    simp [hP]

/-- **What is proposed** for an event that has rules is proposed for a listed badge by its rule. -/
theorem mem_of_evaluate {grants : List Grant} (he : ofEvent e.type ≠ [])
    (h : w.result (evaluate e).run = .ok grants) :
    ∃ badges, w.answer (.badgesOfHandlers ((ofEvent e.type).map name)) = .ok badges ∧
      ∀ g, g ∈ grants ↔ ∃ badge ∈ badges, w.result (proposeFor e badge).run = .ok (some g) := by
  have hempty : (ofEvent e.type).isEmpty = false := by simpa using he
  unfold evaluate at h
  simp only [hempty, Bool.false_eq_true, if_false] at h
  rw [World.result_bind_except, World.result_call] at h
  cases hlisted : w.answer (.badgesOfHandlers ((ofEvent e.type).map name)) with
  | error err =>
    rw [hlisted] at h
    cases h
  | ok badges =>
    rw [hlisted] at h
    dsimp only at h
    rw [World.result_bind_except, World.result_mapM] at h
    refine ⟨badges, rfl, fun g => ?_⟩
    cases hfound : badges.mapM fun badge => w.result (proposeFor e badge).run with
    | error err =>
      rw [hfound] at h
      cases h
    | ok found =>
      rw [hfound] at h
      obtain rfl : found.filterMap id = grants := Except.ok.inj h
      rw [← mem_of_mapM hfound, List.mem_filterMap]
      constructor
      · rintro ⟨p, hp, rfl⟩
        exact hp
      · intro hp
        exact ⟨some g, hp, rfl⟩

end BadgeRule

end Forum
