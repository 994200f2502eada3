import Forum.Proofs.Permission
import Forum.Proofs.Results

/-!
# Many actions at once

A batch gives the verdicts that its actions have one by one. The user and the object are looked up
once for all of them, and the thresholds are read in order until one cannot be read. Those whom no
threshold binds have none read.

* `World.Bound`: a user whose verdicts rest on thresholds;
* `World.untilFailure`: the actions whose thresholds are read;
* `evaluate_cases`: either one verdict for all actions, or a threshold for each;
* **`result_batch`**: the verdicts of a batch are the single ones;
* **`asked_batch`**: its look-ups, its thresholds and its metrics;
* **`batch_agrees`**: both, with the first failure as that of the batch.
-/

namespace Forum

namespace World

variable (w : World)

/-- A user who is known and exempt from no threshold. -/
def Bound (u : User) (user object : String) : Prop :=
  user ≠ "" ∧ w.answer (.userById user) = .ok (some u) ∧ ¬ w.Exempt u user object

/-- The threshold of an action can be read. -/
def readable (a : Action) : Bool := (w.answer (.getInt a.settingKey)).isOk

/-- Some actions up to the first whose threshold cannot be read, with that one. -/
def untilFailure (actions : List Action) : List Action :=
  actions.takeWhile w.readable ++ (actions.dropWhile w.readable).take 1

end World

/-- The reading of a threshold. -/
def Action.reading (a : Action) : Effect := .call (.getInt a.settingKey)

/-- The metric of a verdict. -/
def Action.counting (a : Action) (allowed : Bool) : Effect := .count (.permissionCheck a allowed)

namespace Rank

variable (w : World) {user object : String}

/-- The look-ups of a user and of an object. -/
def lookUps (user object : String) : List Effect :=
  [.call (.userById user), .call (.objectInfo object)]

theorem asked_owns (hu : user ≠ "") (ho : object ≠ "") :
    w.asked (owns user object) = [.call (.objectInfo object)] := by
  rw [owns, if_neg (by simp [hu, ho]), World.asked_bind]
  cases w.result (Service.attempt (.objectInfo object)) <;> rfl

theorem asked_byRank (rank : Int) (actions : List Action) :
    w.asked (actions.mapM (byRank rank)).run = (w.untilFailure actions).map Action.reading := by
  induction actions with
  | nil => rfl
  | cons a actions ih =>
    have hresult := result_byRank w rank a
    have hasked : w.asked (byRank rank a).run = [a.reading] := by
      rw [byRank, threshold, World.asked_bind_except, World.asked_call, World.result_call]
      cases w.answer (.getInt a.settingKey) <;> rfl
    rw [List.mapM_cons, World.asked_bind_except, hasked, hresult]
    cases h : w.answer (.getInt a.settingKey) with
    | error e =>
      have hr : w.readable a = false := by rw [World.readable, h]; rfl
      simp [World.untilFailure, hr, Except.map]
    | ok required =>
      have hr : w.readable a = true := by rw [World.readable, h]; rfl
      dsimp only [Except.map]
      rw [World.asked_bind_except, ih]
      cases w.result (actions.mapM (byRank rank)).run <;> simp [World.untilFailure, hr]

/-- The look-ups for a user who is found: an administrator's object is not looked up. -/
def lookUpsOf (u : User) (user object : String) : List Effect :=
  .call (.userById user) ::
    if u.isAdmin = true ∨ object = "" then [] else [.call (.objectInfo object)]

theorem lookUpsOf_sublist (u : User) (user object : String) :
    (lookUpsOf u user object).Sublist (lookUps user object) := by
  unfold lookUpsOf lookUps
  split
  · exact (List.nil_sublist _).cons_cons _
  · exact List.Sublist.refl _

theorem asked_evaluate_exempt {u : User} (actions : List Action) (hu : user ≠ "")
    (h : w.answer (.userById user) = .ok (some u)) (he : w.Exempt u user object) :
    w.asked (evaluate user actions object).run = lookUpsOf u user object := by
  rw [evaluate, if_neg hu, World.asked_bind_except, World.asked_call, World.result_call, h,
    lookUpsOf]
  by_cases ha : u.isAdmin = true
  · simp [ha]
  · have ho : w.Owns user object := he.resolve_left ha
    simp only [ha, Bool.false_eq_true, if_false, ne_eq, ho.1, not_false_eq_true, if_true, or_self]
    rw [World.asked_bind_except, World.asked_lift, World.result_lift, asked_owns w hu ho.1]
    simp [(result_owns w hu ho.1).mpr ho]

theorem asked_evaluate_bound {u : User} (actions : List Action) (hb : w.Bound u user object) :
    w.asked (evaluate user actions object).run =
      lookUpsOf u user object ++ (w.untilFailure actions).map Action.reading := by
  obtain ⟨hu, h, he⟩ := hb
  obtain ⟨ha, ho⟩ := not_or.mp he
  rw [evaluate, if_neg hu, World.asked_bind_except, World.asked_call, World.result_call, h,
    lookUpsOf, ← asked_byRank w u.rank]
  simp only [ha, Bool.false_eq_true, if_false, false_or]
  by_cases hobj : object = ""
  · simp [hobj]
  · have hno : w.result (owns user object) = false := by
      rw [← Bool.not_eq_true, result_owns w hu hobj]
      exact ho
    simp only [ne_eq, hobj, not_false_eq_true, if_true, if_false]
    rw [World.asked_bind_except, World.asked_lift, World.result_lift, asked_owns w hu hobj, hno]
    rfl

/-- **The verdicts on any list of actions.** Either no threshold binds the user, and there is one
outcome for all actions, or every action is judged by its threshold. -/
theorem evaluate_cases (user object : String) :
    ∃ looked, looked.Sublist (lookUps user object) ∧
      ((∃ r : Except ServiceError Bool, (¬ ∃ u, w.Bound u user object) ∧ ∀ actions,
          w.result (evaluate user actions object).run = r.map (uniform actions) ∧
          w.asked (evaluate user actions object).run = looked) ∨
        ∃ u, w.Bound u user object ∧ ∀ actions,
          w.result (evaluate user actions object).run =
            (actions.mapM fun a => w.result (byRank u.rank a).run) ∧
          w.asked (evaluate user actions object).run =
            looked ++ (w.untilFailure actions).map Action.reading) := by
  by_cases hu : user = ""
  · refine ⟨[], List.nil_sublist _, .inl ⟨.ok false, fun ⟨u, h, _⟩ => h hu, fun actions => ?_⟩⟩
    rw [evaluate, if_pos hu]
    exact ⟨rfl, rfl⟩
  have hfirst : [Effect.call (.userById user)].Sublist (lookUps user object) :=
    (List.nil_sublist _).cons_cons _
  cases h : w.answer (.userById user) with
  | error e =>
    refine ⟨_, hfirst, .inl ⟨.error e, ?_, fun actions => ?_⟩⟩
    · rintro ⟨u, -, hl, -⟩
      rw [h] at hl
      cases hl
    · rw [evaluate, if_neg hu, World.result_bind_except, World.asked_bind_except,
        World.result_call, h]
      exact ⟨rfl, rfl⟩
  | ok found =>
    cases found with
    | none =>
      refine ⟨_, hfirst, .inl ⟨.ok false, ?_, fun actions => ?_⟩⟩
      · rintro ⟨u, -, hl, -⟩
        rw [h] at hl
        cases hl
      · rw [evaluate, if_neg hu, World.result_bind_except, World.asked_bind_except,
          World.result_call, h]
        exact ⟨rfl, rfl⟩
    | some u =>
      refine ⟨_, lookUpsOf_sublist u user object, ?_⟩
      by_cases he : w.Exempt u user object
      · refine .inl ⟨.ok true, ?_, fun actions => ?_⟩
        · rintro ⟨u', -, hl, hn⟩
          rw [h] at hl
          cases hl
          exact hn he
        · exact ⟨result_evaluate_exempt w actions hu h he, asked_evaluate_exempt w actions hu h he⟩
      · refine .inr ⟨u, ⟨hu, h, he⟩, fun actions => ⟨?_, ?_⟩⟩
        · exact (result_evaluate_bound w actions hu h he).trans (w.result_mapM _ _)
        · exact asked_evaluate_bound w actions ⟨hu, h, he⟩

/-! ## Batches -/

theorem result_checkEach (actions : List Action) :
    w.result (checkEach user actions object).run =
      (w.result (evaluate user actions object).run).map fun cs => cs.map (·.allowed) := by
  rw [checkEach, World.result_bind_except, result_checkAll]
  cases w.result (evaluate user actions object).run <;> rfl

theorem asked_counts (cs : List PermissionCheck) :
    w.asked (cs.forM fun c =>
      (liftM (Service.count (.permissionCheck c.action c.allowed)) : Fallible Unit)).run =
        cs.map fun c => c.action.counting c.allowed := by
  induction cs with
  | nil => rfl
  | cons c cs ih =>
    change w.asked ((liftM (Service.count _) : Fallible Unit) >>= fun _ => cs.forM _).run = _
    rw [World.asked_bind_except, World.asked_lift, World.result_lift, ih]
    rfl

theorem asked_checkEach (actions : List Action) :
    w.asked (checkEach user actions object).run =
      w.asked (evaluate user actions object).run ++
        match w.result (evaluate user actions object).run with
        | .ok cs => cs.map fun c => c.action.counting c.allowed
        | .error _ => [] := by
  have counted : w.asked (checkAll user actions object).run =
      w.asked (evaluate user actions object).run ++
        match w.result (evaluate user actions object).run with
        | .ok cs => cs.map fun c => c.action.counting c.allowed
        | .error _ => [] := by
    rw [checkAll, World.asked_bind_except]
    cases w.result (evaluate user actions object).run with
    | error e => rfl
    | ok cs =>
      dsimp only
      rw [World.asked_bind_except, asked_counts]
      cases w.result (cs.forM fun c =>
        (liftM (Service.count (.permissionCheck c.action c.allowed)) : Fallible Unit)).run <;>
        exact congrArg _ (List.append_nil _)
  rw [checkEach, World.asked_bind_except, counted]
  cases w.result (checkAll user actions object).run <;> exact List.append_nil _

theorem actions_of_evaluate {actions : List Action} {cs : List PermissionCheck}
    (h : w.result (evaluate user actions object).run = .ok cs) : cs.map (·.action) = actions := by
  obtain ⟨looked, -, ⟨r, -, hrun⟩ | ⟨u, -, hrun⟩⟩ := evaluate_cases w user object
  · rw [(hrun actions).1] at h
    cases r with
    | error e => cases h
    | ok b =>
      cases h
      rw [uniform, List.map_map]
      exact List.map_id actions
  · have own : ∀ a c, w.result (byRank u.rank a).run = .ok c → a = c.action := by
      intro a c hc
      rw [result_byRank] at hc
      cases hl : w.answer (.getInt a.settingKey) with
      | error e =>
        rw [hl] at hc
        cases hc
      | ok required =>
        rw [hl] at hc
        cases hc
        rfl
    rw [(hrun actions).1, mapM_eq_ok_iff] at h
    have each : List.Forall₂ (· = ·) actions (cs.map (·.action)) :=
      List.forall₂_map_right_iff.mpr (h.imp own)
    rw [List.forall₂_eq_eq_eq] at each
    exact each.symm

/-- **The verdicts of a batch are the single ones**, each of them there or the first failure. -/
theorem result_batch {actions : List Action} (h : actions ≠ []) (user object : String) :
    w.result (checkEach user actions object).run =
      actions.mapM fun a => w.result (check user a object).run := by
  obtain ⟨looked, -, ⟨r, -, hrun⟩ | ⟨u, -, hrun⟩⟩ := evaluate_cases w user object
  · have single : ∀ a, w.result (check user a object).run = r := by
      intro a
      rw [result_check, (hrun [a]).1]
      cases r <;> rfl
    simp only [single]
    rw [mapM_const h, result_checkEach, (hrun actions).1]
    cases r with
    | error e => rfl
    | ok b =>
      exact congrArg Except.ok (List.map_map)
  · have single : ∀ a, w.result (check user a object).run =
        (w.result (byRank u.rank a).run).map (·.allowed) := by
      intro a
      rw [result_check, (hrun [a]).1, List.mapM_cons]
      cases w.result (byRank u.rank a).run <;> rfl
    simp only [single]
    rw [result_checkEach, (hrun actions).1, mapM_map]

/-- The metrics of a batch: a verdict counts for its action, and a failure for none. -/
def countings (actions : List Action) : Except ServiceError (List Bool) → List Effect
  | .ok bs => List.zipWith Action.counting actions bs
  | .error _ => []

/-- **What a batch asks**: the look-ups, the thresholds as far as they are needed, and the
metrics. -/
theorem asked_batch (user : String) (actions : List Action) (object : String) :
    ∃ looked read, w.asked (checkEach user actions object).run =
        looked ++ read.map Action.reading ++
          countings actions (w.result (checkEach user actions object).run) ∧
      looked.Sublist (lookUps user object) ∧
      ((∃ u, w.Bound u user object) → read = w.untilFailure actions) ∧
      ((¬ ∃ u, w.Bound u user object) → read = []) := by
  have counts : w.asked (checkEach user actions object).run =
      w.asked (evaluate user actions object).run ++
        countings actions (w.result (checkEach user actions object).run) := by
    rw [asked_checkEach, result_checkEach]
    refine congrArg _ ?_
    cases h : w.result (evaluate user actions object).run with
    | error e => rfl
    | ok cs =>
      dsimp only [Except.map, countings]
      rw [← actions_of_evaluate w h, List.zipWith_map, List.zipWith_self]
  obtain ⟨looked, hlooked, ⟨r, hfree, hrun⟩ | ⟨u, hbound, hrun⟩⟩ := evaluate_cases w user object
  · refine ⟨looked, [], ?_, hlooked, fun hb => absurd hb hfree, fun _ => rfl⟩
    rw [counts, (hrun actions).2, List.map_nil, List.append_nil]
  · refine ⟨looked, w.untilFailure actions, ?_, hlooked, fun _ => rfl, fun hn => ?_⟩
    · rw [counts, (hrun actions).2]
    · exact absurd ⟨u, hbound⟩ hn

/-- **A batch agrees with its actions.** It gives a verdict for every action, the one that the
action has alone, or fails as the first action that fails alone. It looks up the user at most once,
and then the object at most once; it then reads the threshold of each action in order, up to the
first that cannot be read, if the user is known and exempt from none, and else no threshold at all.
In the end it counts every action with its verdict, if it has not failed. -/
theorem batch_agrees {actions : List Action} (h : actions ≠ []) (user object : String) :
    (∀ bs, w.result (checkEach user actions object).run = .ok bs ↔
      List.Forall₂ (fun a b => w.result (check user a object).run = .ok b) actions bs) ∧
    (∀ e, w.result (checkEach user actions object).run = .error e ↔
      ∃ before a after, actions = before ++ a :: after ∧
        (∀ b ∈ before, ∃ allowed, w.result (check user b object).run = .ok allowed) ∧
        w.result (check user a object).run = .error e) ∧
    ∃ looked read, w.asked (checkEach user actions object).run =
        looked ++ read.map Action.reading ++
          countings actions (w.result (checkEach user actions object).run) ∧
      looked.Sublist (lookUps user object) ∧
      ((∃ u, w.Bound u user object) → read = w.untilFailure actions) ∧
      ((¬ ∃ u, w.Bound u user object) → read = []) := by
  refine ⟨fun bs => ?_, fun e => ?_, asked_batch w user actions object⟩
  · rw [result_batch w h]
    exact mapM_eq_ok_iff
  · rw [result_batch w h]
    exact mapM_eq_error_iff

/-- Ann has a reputation of 10, and Ada is an administrator. Of the thresholds only one is set, and
one cannot be read. -/
def office : World where
  answer
    | .userById "ann" => .ok (some ⟨"ann", "ann", "Ann", 10, false, .normal⟩)
    | .userById "ada" => .ok (some ⟨"ada", "ada", "Ada", 1, true, .normal⟩)
    | .userById _ => .ok none
    | .getInt "rank.question.edit" => .ok (some 5)
    | .getInt "rank.tag.add" => .error (.database .poolTimedOut)
    | .getInt _ => .ok none
    | _ => .error (.internal "")
  accepts _ := false

/-- Ann's batch fails with the second of its three actions. -/
theorem batch_agrees_ann :
    [Action.questionEdit, .tagAdd, .tagEdit] ≠ [] ∧
    office.result (checkEach "ann" [.questionEdit, .tagAdd, .tagEdit] "").run =
      .error (.database .poolTimedOut) := by
  have h : [Action.questionEdit, .tagAdd, .tagEdit] ≠ [] := by decide
  obtain ⟨-, hfails, -⟩ := batch_agrees office h "ann" ""
  refine ⟨h, (hfails _).mpr ⟨[.questionEdit], .tagAdd, [.tagEdit], rfl, ?_, by decide +kernel⟩⟩
  intro b hb
  obtain rfl := List.mem_singleton.mp hb
  exact ⟨true, by decide +kernel⟩

/-- The setting that an operation reads. -/
def setting? : Effect → Option String
  | .call (.getInt key) => some key
  | _ => none

/-- A batch that succeeds does not always read the thresholds: Ada needs none. -/
theorem batch_reads_nothing_for_ada :
    office.result (checkEach "ada" [.questionEdit] "").run = .ok [true] ∧
    (office.asked (checkEach "ada" [.questionEdit] "").run).filterMap setting? ≠
      (office.untilFailure [.questionEdit]).map Action.settingKey := by
  have hasked :
      (office.asked (checkEach "ada" [.questionEdit] "").run).filterMap setting? = [] := by
    decide +kernel
  have hdue : (office.untilFailure [.questionEdit]).map Action.settingKey =
      ["rank.question.edit"] := by
    decide +kernel
  refine ⟨by decide +kernel, ?_⟩
  rw [hasked, hdue]
  exact (List.cons_ne_nil _ _).symm

end Rank

end Forum
