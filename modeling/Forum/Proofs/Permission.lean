import Forum.Proofs.World
import Forum.Rank

/-!
# Who may do what

The verdicts of `Rank` in a world, told by what the look-ups answer.

* `World.Owns`, `World.Exempt`, `World.Reaches`: the three ways to a permission;
* `World.May`, `World.Fails`: an action is permitted, or cannot be judged;
* **`check_verdict`**: `Rank.check` says yes, fails or says no exactly then;
* `World.MayVote`, `checkVote_eq_true`: who may vote on an object.
-/

namespace Forum

namespace World

variable (w : World)

/-- The user created the object, as far as its look-up tells. -/
def Owns (user object : String) : Prop :=
  object ≠ "" ∧ ∃ o, w.answer (.objectInfo object) = .ok o ∧ o.creator = user

/-- A user whom no threshold binds: an administrator, or the creator of the object. -/
def Exempt (u : User) (user object : String) : Prop := u.isAdmin = true ∨ w.Owns user object

/-- A reputation suffices for an action that has a threshold. -/
def Reaches (rank : Int) (a : Action) : Prop :=
  ∃ required, w.answer (.getInt a.settingKey) = .ok (some required) ∧ required ≤ rank

/-- The user may do this to the object. -/
def May (user : String) (a : Action) (object : String) : Prop :=
  user ≠ "" ∧ ∃ u, w.answer (.userById user) = .ok (some u) ∧
    (w.Exempt u user object ∨ w.Reaches u.rank a)

/-- The setting that holds the threshold of a vote. -/
def voteKey (k : ObjectKind) (up : Bool) : String :=
  "rank." ++ k.name ++ (if up then ".vote_up" else ".vote_down")

/-- The user may vote on the object: it is a post of somebody else, and the user is an administrator
or has the reputation that the setting for such votes asks for. -/
def MayVote (user : String) (o : ObjectInfo) (up : Bool) : Prop :=
  o.creator ≠ user ∧ (o.kind = .question ∨ o.kind = .answer ∨ o.kind = .comment) ∧
    ∃ u, w.answer (.userById user) = .ok (some u) ∧ (u.isAdmin = true ∨
      ∃ required, w.answer (.getInt (voteKey o.kind up)) = .ok (some required) ∧ required ≤ u.rank)

/-- There is no verdict: the look-up of the user fails, or that of a threshold which binds them. -/
def Fails (user : String) (a : Action) (object : String) (e : ServiceError) : Prop :=
  user ≠ "" ∧ (w.answer (.userById user) = .error e ∨
    ∃ u, w.answer (.userById user) = .ok (some u) ∧ ¬ w.Exempt u user object ∧
      w.answer (.getInt a.settingKey) = .error e)

end World

namespace Rank

variable (w : World) {user object : String} {a : Action}

theorem isCreatedBy_iff {o : ObjectInfo} (hu : user ≠ "") :
    o.isCreatedBy user = true ↔ o.creator = user := by
  simp [ObjectInfo.isCreatedBy, hu]

theorem result_owns (hu : user ≠ "") (ho : object ≠ "") :
    w.result (owns user object) = true ↔ w.Owns user object := by
  rw [owns, if_neg (by simp [hu, ho]), World.result_bind, World.result_attempt]
  cases h : w.answer (.objectInfo object) with
  | ok o => simp [World.Owns, ho, h, isCreatedBy_iff hu]
  | error e => simp [World.Owns, h]

theorem result_evaluate_exempt {u : User} (actions : List Action) (hu : user ≠ "")
    (h : w.answer (.userById user) = .ok (some u)) (he : w.Exempt u user object) :
    w.result (evaluate user actions object).run = .ok (uniform actions true) := by
  rw [evaluate, if_neg hu, World.result_bind_except, World.result_call, h]
  by_cases ha : u.isAdmin = true
  · simp [ha]
  · have ho : w.Owns user object := he.resolve_left ha
    simp only [ha, if_neg, Bool.false_eq_true, not_false_eq_true, ho.1, ne_eq, if_true]
    rw [World.result_bind_except, World.result_lift]
    simp [(result_owns w hu ho.1).mpr ho]

theorem result_evaluate_bound {u : User} (actions : List Action) (hu : user ≠ "")
    (h : w.answer (.userById user) = .ok (some u)) (he : ¬ w.Exempt u user object) :
    w.result (evaluate user actions object).run = w.result (actions.mapM (byRank u.rank)).run := by
  obtain ⟨ha, ho⟩ := not_or.mp he
  rw [evaluate, if_neg hu, World.result_bind_except, World.result_call, h]
  simp only [ha, if_neg, Bool.false_eq_true, not_false_eq_true]
  by_cases hobj : object = ""
  · simp [hobj]
  · have hno : w.result (owns user object) = false := by
      rw [← Bool.not_eq_true, result_owns w hu hobj]
      exact ho
    simp only [ne_eq, hobj, not_false_eq_true, if_true]
    rw [World.result_bind_except, World.result_lift, hno]
    simp

theorem result_byRank (rank : Int) (a : Action) :
    w.result (byRank rank a).run =
      (w.answer (.getInt a.settingKey)).map fun required =>
        ⟨a, reaches rank required, required⟩ := by
  rw [byRank, threshold, World.result_bind_except, World.result_call]
  cases w.answer (.getInt a.settingKey) <;> rfl

theorem reaches_iff {rank : Int} {required : Option Int} :
    reaches rank required = true ↔ ∃ r, required = some r ∧ r ≤ rank := by
  cases required <;> simp [reaches]

theorem result_checkAll (actions : List Action) :
    w.result (checkAll user actions object).run = w.result (evaluate user actions object).run := by
  have count : ∀ cs : List PermissionCheck, w.result (cs.forM fun c =>
      (liftM (Service.count (.permissionCheck c.action c.allowed)) : Fallible Unit)).run =
        .ok () := by
    intro cs
    induction cs with
    | nil => rfl
    | cons c cs ih =>
      change w.result ((liftM (Service.count _) : Fallible Unit) >>= fun _ => cs.forM _).run = _
      rw [World.result_bind_except, World.result_lift]
      exact ih
  rw [checkAll, World.result_bind_except]
  cases w.result (evaluate user actions object).run with
  | ok cs => simp only [World.result_bind_except, count, World.result_pure_except]
  | error e => rfl

theorem result_check :
    w.result (check user a object).run =
      (w.result (evaluate user [a] object).run).map fun cs => cs.head?.any (·.allowed) := by
  rw [check, World.result_bind_except, result_checkAll]
  cases w.result (evaluate user [a] object).run <;> rfl

theorem check_cases (user : String) (a : Action) (object : String) :
    (user = "" ∧ w.result (check user a object).run = .ok false) ∨
    (∃ e, user ≠ "" ∧ w.answer (.userById user) = .error e ∧
      w.result (check user a object).run = .error e) ∨
    (user ≠ "" ∧ w.answer (.userById user) = .ok none ∧
      w.result (check user a object).run = .ok false) ∨
    (∃ u, user ≠ "" ∧ w.answer (.userById user) = .ok (some u) ∧ w.Exempt u user object ∧
      w.result (check user a object).run = .ok true) ∨
    ∃ u, user ≠ "" ∧ w.answer (.userById user) = .ok (some u) ∧ ¬ w.Exempt u user object ∧
      w.result (check user a object).run =
        (w.answer (.getInt a.settingKey)).map (reaches u.rank) := by
  by_cases hu : user = ""
  · refine .inl ⟨hu, ?_⟩
    rw [result_check, evaluate, if_pos hu]
    rfl
  cases h : w.answer (.userById user) with
  | error e =>
    refine .inr (.inl ⟨e, hu, rfl, ?_⟩)
    rw [result_check, evaluate, if_neg hu, World.result_bind_except, World.result_call, h]
    rfl
  | ok found =>
    cases found with
    | none =>
      refine .inr (.inr (.inl ⟨hu, rfl, ?_⟩))
      rw [result_check, evaluate, if_neg hu, World.result_bind_except, World.result_call, h]
      rfl
    | some u =>
      by_cases he : w.Exempt u user object
      · refine .inr (.inr (.inr (.inl ⟨u, hu, rfl, he, ?_⟩)))
        rw [result_check, result_evaluate_exempt w [a] hu h he]
        rfl
      · refine .inr (.inr (.inr (.inr ⟨u, hu, rfl, he, ?_⟩)))
        rw [result_check, result_evaluate_bound w [a] hu h he, List.mapM_cons,
          World.result_bind_except, result_byRank]
        cases w.answer (.getInt a.settingKey) <;> rfl

theorem map_reaches_eq_true {rank : Int} {a : Action} :
    (w.answer (.getInt a.settingKey)).map (reaches rank) = .ok true ↔ w.Reaches rank a := by
  cases h : w.answer (.getInt a.settingKey) with
  | ok required => simp [World.Reaches, h, Except.map, reaches_iff]
  | error e => simp [World.Reaches, h, Except.map]

theorem map_reaches_eq_error {rank : Int} {a : Action} {e : ServiceError} :
    (w.answer (.getInt a.settingKey)).map (reaches rank) = .error e ↔
      w.answer (.getInt a.settingKey) = .error e := by
  cases w.answer (.getInt a.settingKey) <;> simp [Except.map]

theorem check_eq_true :
    w.result (check user a object).run = .ok true ↔ w.May user a object := by
  unfold World.May
  rcases check_cases w user a object with ⟨hu, hr⟩ | ⟨e, hu, hl, hr⟩ | ⟨hu, hl, hr⟩ |
    ⟨u, hu, hl, he, hr⟩ | ⟨u, hu, hl, he, hr⟩
  · rw [hr]
    simp [hu]
  · simp [hr, hl]
  · simp [hr, hl]
  · simp [hr, hl, hu, he]
  · simp [hr, hl, hu, he, map_reaches_eq_true]

theorem check_eq_error {e : ServiceError} :
    w.result (check user a object).run = .error e ↔ w.Fails user a object e := by
  unfold World.Fails
  rcases check_cases w user a object with ⟨hu, hr⟩ | ⟨e', hu, hl, hr⟩ | ⟨hu, hl, hr⟩ |
    ⟨u, hu, hl, he, hr⟩ | ⟨u, hu, hl, he, hr⟩
  · rw [hr]
    simp [hu]
  · simp [hr, hl, hu]
  · simp [hr, hl]
  · simp [hr, hl, he]
  · simp [hr, hl, hu, he, map_reaches_eq_error]

theorem not_owns_of_error {e : ServiceError} (h : w.answer (.objectInfo object) = .error e) :
    ¬ w.Owns user object := by
  rintro ⟨-, o, ho, -⟩
  rw [h] at ho
  cases ho

theorem not_owns_empty : ¬ w.Owns user "" := fun h => h.1 rfl

theorem check_congr {other : String} (h : w.Owns user object ↔ w.Owns user other) :
    w.result (check user a object).run = w.result (check user a other).run := by
  have hx : ∀ u, w.Exempt u user object ↔ w.Exempt u user other := fun u => or_congr_right h
  have hok : w.May user a object ↔ w.May user a other := by simp only [World.May, hx]
  have hno : ∀ e, w.Fails user a object e ↔ w.Fails user a other e := by
    intro e
    simp only [World.Fails, hx]
  rw [← check_eq_true, ← check_eq_true] at hok
  simp only [← check_eq_error] at hno
  generalize w.result (check user a object).run = r at hok hno
  generalize w.result (check user a other).run = s at hok hno
  match r, s with
  | .error e, s => exact ((hno e).mp rfl).symm
  | .ok b, .error e => exact (hno e).mpr rfl
  | .ok true, .ok b => exact (hok.mp rfl).symm
  | .ok false, .ok true => exact hok.mpr rfl
  | .ok false, .ok false => rfl

/-- **The verdict on one action**, whatever the look-ups answer: yes to those who may, the failure
of a look-up that is needed, and no in every other case. A failing look-up of the object counts as
no object, and without a threshold only those pass whom none binds. -/
theorem check_verdict (user : String) (a : Action) (object : String) :
    (w.result (check user a object).run = .ok true ↔ w.May user a object) ∧
    (∀ e, w.result (check user a object).run = .error e ↔ w.Fails user a object e) ∧
    (w.result (check user a object).run = .ok false ↔
      ¬ w.May user a object ∧ ∀ e, ¬ w.Fails user a object e) ∧
    (∀ e, w.answer (.objectInfo object) = .error e →
      w.result (check user a object).run = w.result (check user a "").run) ∧
    (w.answer (.getInt a.settingKey) = .ok none → w.May user a object →
      ∃ u, w.answer (.userById user) = .ok (some u) ∧ w.Exempt u user object) := by
  refine ⟨check_eq_true w, fun e => check_eq_error w, ?_, fun e he => ?_, fun hn hm => ?_⟩
  · rw [← check_eq_true, show (∀ e, ¬ w.Fails user a object e) ↔
      ∀ e, w.result (check user a object).run ≠ .error e from
        forall_congr' fun e => not_congr (check_eq_error w).symm]
    cases w.result (check user a object).run with
    | ok b => cases b <;> simp
    | error e => simp
  · exact check_congr w (iff_of_false (not_owns_of_error w he) (not_owns_empty w))
  · obtain ⟨-, u, hl, hx | ⟨r, hr, -⟩⟩ := hm
    · exact ⟨u, hl, hx⟩
    · rw [hn] at hr
      cases hr

/-! ## Votes -/

theorem vote?_eq_none {k : ObjectKind} {up : Bool} (h : Action.vote? k up = none) :
    ¬ (k = .question ∨ k = .answer ∨ k = .comment) := by
  cases k <;> cases up <;> simp_all [Action.vote?]

theorem of_vote?_eq_some {k : ObjectKind} {up : Bool} (h : Action.vote? k up = some a) :
    (k = .question ∨ k = .answer ∨ k = .comment) ∧ a.settingKey = World.voteKey k up := by
  cases k <;> cases up <;> simp only [Action.vote?, reduceCtorEq, Option.some.injEq] at h <;>
    subst h <;> exact ⟨by decide, by decide⟩

theorem result_checkRank (rank : Int) (a : Action) :
    w.result (checkRank rank a).run =
      (w.answer (.getInt a.settingKey)).map (reaches rank) := by
  rw [checkRank, threshold, World.result_bind_except, World.result_call]
  cases w.answer (.getInt a.settingKey) <;> rfl

theorem result_counted (m : Bool → Metric) (verdict : Fallible Bool) :
    w.result (do
      let allowed ← verdict
      (liftM (Service.count (m allowed)) : Fallible Unit)
      pure allowed).run = w.result verdict.run := by
  rw [World.result_bind_except]
  cases w.result verdict.run with
  | ok b => exact World.result_bind_except w _ _
  | error e => rfl

/-- **Who may vote.** -/
theorem checkVote_eq_true {o : ObjectInfo} {up : Bool} :
    w.result (checkVote user o up).run = .ok true ↔ user ≠ "" ∧ w.MayVote user o up := by
  unfold checkVote World.MayVote
  by_cases hu : user = ""
  · simp [hu]
  by_cases hc : o.creator = user
  · simp [hu, hc, (isCreatedBy_iff (o := o) hu).mpr hc]
  rw [if_neg (by simp [hu, isCreatedBy_iff hu, hc])]
  cases hv : Action.vote? o.kind up with
  | none => simp [vote?_eq_none hv]
  | some a =>
    obtain ⟨hk, hkey⟩ := of_vote?_eq_some hv
    rw [← hkey]
    dsimp only
    rw [World.result_bind_except, World.result_call]
    cases hl : w.answer (.userById user) with
    | error e => simp
    | ok found =>
      cases found with
      | none => simp
      | some u =>
        by_cases ha : u.isAdmin = true
        · have h := result_counted w (.permissionCheck a) (pure true)
          simp only [ha, if_true]
          rw [h]
          simp [hu, hc, hk, ha]
        · have h := result_counted w (.permissionCheck a) (checkRank u.rank a)
          simp only [ha, if_false, Bool.false_eq_true]
          rw [h, result_checkRank, map_reaches_eq_true]
          simp [hu, hc, hk, ha, World.Reaches]

end Rank

end Forum
