import Forum.Proofs.Admission
import Forum.Proofs.Batch
import Forum.Proofs.Notified
import Mathlib.Data.List.Induction
import Mathlib.Data.String.Basic

/-!
# Questions about permissions

A request can ask what its caller may do. It names actions between commas, and is answered with an
object that has a verdict for every name. An action may be named more than once.

* `Json.mem_insert`, **`Json.object_eq_members`**: the members of an object;
* `PermissionQuery.actions_eq_ok_iff`, `actions_eq_error`: the actions that are named, and the first
  name that is that of none;
* `call_of_evaluate_error`, `checkEach_eq_ok`: when there are verdicts;
* `Json.Answers`, **`answers_verdicts`**: the data of the answer;
* `Server.AsksPermissions`; **`permissions_answered`**: what a question is answered with.
-/

namespace Forum

/-! ## Objects -/

namespace Json

variable {name k : String} {v x : Json} {ms : List (String × Json)}

/-- The members stand in the order of their names, and so no name is there twice. -/
def Sorted (ms : List (String × Json)) : Prop := (ms.map Prod.fst).Pairwise (· < ·)

theorem mem_keys_insert :
    k ∈ (insert name v ms).map Prod.fst ↔ k = name ∨ k ∈ ms.map Prod.fst := by
  induction ms with
  | nil => simp [insert]
  | cons m ms ih =>
    obtain ⟨n, x⟩ := m
    unfold insert
    split
    · simp
    split
    · next h =>
      subst h
      simp
    · rw [List.map_cons, List.mem_cons, ih, List.map_cons, List.mem_cons, or_left_comm]

theorem sorted_insert (h : Sorted ms) : Sorted (insert name v ms) := by
  induction ms with
  | nil => exact List.pairwise_singleton _ _
  | cons m ms ih =>
    obtain ⟨n, x⟩ := m
    obtain ⟨hn, hms⟩ := List.pairwise_cons.mp h
    unfold insert
    split
    · next hlt =>
      refine List.pairwise_cons.mpr ⟨fun k hk => ?_, h⟩
      rcases List.mem_cons.mp hk with rfl | hk
      · exact hlt
      · exact hlt.trans (hn k hk)
    split
    · exact h
    · next hle hne =>
      refine List.pairwise_cons.mpr ⟨fun k hk => ?_, ih hms⟩
      rcases mem_keys_insert.mp hk with rfl | hk
      · exact lt_of_le_of_ne (not_lt.mp hle) (Ne.symm hne)
      · exact hn k hk

theorem mem_insert (h : Sorted ms) :
    (k, x) ∈ insert name v ms ↔ k = name ∧ x = v ∨ k ≠ name ∧ (k, x) ∈ ms := by
  induction ms with
  | nil => simp [insert]
  | cons m ms ih =>
    obtain ⟨n, y⟩ := m
    obtain ⟨hn, hms⟩ := List.pairwise_cons.mp h
    have later : ∀ {k x}, (k, x) ∈ ms → n < k := fun hk => hn _ (List.mem_map_of_mem hk)
    unfold insert
    split
    · next hlt =>
      have hnew : (k, x) ∈ (n, y) :: ms → k ≠ name := by
        rintro hk rfl
        rcases List.mem_cons.mp hk with hk | hk
        · cases hk
          exact lt_irrefl _ hlt
        · exact lt_irrefl _ (hlt.trans (later hk))
      rw [List.mem_cons, Prod.mk.injEq]
      exact or_congr_right ⟨fun hk => ⟨hnew hk, hk⟩, And.right⟩
    split
    · next heq =>
      subst heq
      have hother : (k, x) ∈ ms → k ≠ name := fun hk => (later hk).ne'
      rw [List.mem_cons, Prod.mk.injEq, List.mem_cons, Prod.mk.injEq]
      constructor
      · rintro (hk | hk)
        · exact .inl hk
        · exact .inr ⟨hother hk, .inr hk⟩
      · rintro (hk | ⟨hne, hk | hk⟩)
        · exact .inl hk
        · exact absurd hk.1 hne
        · exact .inr hk
    · next hle hne =>
      rw [List.mem_cons, ih hms, List.mem_cons, Prod.mk.injEq]
      constructor
      · rintro (⟨rfl, rfl⟩ | hk | ⟨hne', hk⟩)
        · exact .inr ⟨Ne.symm hne, .inl ⟨rfl, rfl⟩⟩
        · exact .inl hk
        · exact .inr ⟨hne', .inr hk⟩
      · rintro (hk | ⟨hne', hk | hk⟩)
        · exact .inr (.inl hk)
        · exact .inl hk
        · exact .inr (.inr ⟨hne', hk⟩)

/-- **The members of an object**, if no name is given two values. -/
theorem object_eq_members (h : ∀ k x y, (k, x) ∈ ms → (k, y) ∈ ms → x = y) :
    ∃ out, object ms = members out ∧ Sorted out ∧ ∀ k x, (k, x) ∈ out ↔ (k, x) ∈ ms := by
  induction ms using List.reverseRecOn with
  | nil => exact ⟨[], rfl, .nil, fun _ _ => Iff.rfl⟩
  | append_singleton ms m ih =>
    obtain ⟨n, v⟩ := m
    obtain ⟨out, hout, hsorted, hmem⟩ := ih fun k x y hx hy =>
      h k x y (List.mem_append_left _ hx) (List.mem_append_left _ hy)
    refine ⟨insert n v out, ?_, sorted_insert hsorted, fun k x => ?_⟩
    · rw [object, List.foldl_append]
      exact congrArg (fun o => members (insert n v o)) (members.inj hout)
    · rw [mem_insert hsorted, hmem, List.mem_append, List.mem_singleton, Prod.mk.injEq]
      constructor
      · rintro (hk | ⟨-, hk⟩)
        · exact .inr hk
        · exact .inl hk
      · rintro (hk | hk)
        · by_cases hkn : k = n
          · subst hkn
            exact .inl ⟨rfl, h k x v (List.mem_append_left _ hk) (by simp)⟩
          · exact .inr ⟨hkn, hk⟩
        · exact .inl hk

end Json

/-! ## The actions that are named -/

theorem Action.ofName?_eq_some_iff {s : String} {a : Action} : ofName? s = some a ↔ s = a.name := by
  constructor
  · intro h
    have hname := List.find?_some (p := fun a : Action => decide (a.name = s)) h
    exact (of_decide_eq_true hname).symm
  · rintro rfl
    cases a <;> decide

namespace PermissionQuery

variable {q : PermissionQuery}

theorem actions_eq_ok_iff {actions : List Action} :
    q.actions = .ok actions ↔ q.names = actions.map Action.name := by
  refine mapM_eq_ok_iff.trans ?_
  rw [← List.forall₂_eq_eq_eq, List.forall₂_map_right_iff]
  constructor
  · refine fun h => h.imp fun n a hn => ?_
    cases hfound : Action.ofName? n with
    | none =>
      rw [hfound] at hn
      cases hn
    | some b =>
      rw [hfound] at hn
      cases hn
      exact Action.ofName?_eq_some_iff.mp hfound
  · refine fun h => h.imp fun n a hn => ?_
    rw [Action.ofName?_eq_some_iff.mpr hn]

theorem actions_eq_error {before after : List String} {n : String}
    (h : q.names = before ++ n :: after) (hbefore : ∀ m ∈ before, Action.ofName? m ≠ none)
    (hn : Action.ofName? n = none) : q.actions = .error (.unknownAction n) := by
  refine mapM_eq_error_iff.mpr ⟨before, n, after, h, fun m hm => ?_, ?_⟩
  · obtain ⟨a, ha⟩ := Option.ne_none_iff_exists'.mp (hbefore m hm)
    rw [ha]
    exact ⟨a, rfl⟩
  · rw [hn]

theorem actions_of_known (h : ∀ n ∈ q.names, Action.ofName? n ≠ none) :
    ∃ actions, q.actions = .ok actions := by
  cases ha : q.actions with
  | ok actions => exact ⟨actions, rfl⟩
  | error e =>
    obtain ⟨before, n, after, hnames, -, hn⟩ := mapM_eq_error_iff.mp ha
    have hknown := h n (by simp [hnames])
    obtain ⟨a, hfound⟩ := Option.ne_none_iff_exists'.mp hknown
    rw [hfound] at hn
    cases hn

end PermissionQuery

/-! ## Verdicts that are not found -/

namespace Rank

variable {w : World} {user object : String} {actions : List Action}

theorem mem_untilFailure {before after : List Action} {a : Action}
    (hbefore : ∀ b ∈ before, w.readable b = true) (ha : w.readable a = false) :
    a ∈ w.untilFailure (before ++ a :: after) := by
  rw [World.untilFailure, List.takeWhile_append_of_pos hbefore,
    List.dropWhile_append_of_pos hbefore]
  simp [ha]

theorem call_of_evaluate_error {e : ServiceError}
    (h : w.result (evaluate user actions object).run = .error e) :
    ∃ c, .call c ∈ w.asked (evaluate user actions object).run ∧ w.answer c = .error e ∧
      ∀ id, c ≠ .objectInfo id := by
  have hu : user ≠ "" := by
    rintro rfl
    cases h
  cases hfound : w.answer (.userById user) with
  | error e' =>
    rw [evaluate, if_neg hu, World.result_bind_except, World.result_call, hfound] at h
    cases h
    refine ⟨.userById user, ?_, hfound, fun id h => by cases h⟩
    rw [evaluate, if_neg hu, World.asked_bind_except]
    exact List.mem_append_left _ List.mem_cons_self
  | ok found =>
    cases found with
    | none =>
      rw [evaluate, if_neg hu, World.result_bind_except, World.result_call, hfound] at h
      cases h
    | some u =>
      by_cases hexempt : w.Exempt u user object
      · rw [result_evaluate_exempt w actions hu hfound hexempt] at h
        cases h
      · rw [result_evaluate_bound w actions hu hfound hexempt, World.result_mapM] at h
        obtain ⟨before, a, after, rfl, hbefore, ha⟩ := mapM_eq_error_iff.mp h
        have hread : w.answer (.getInt a.settingKey) = .error e :=
          map_eq_error.mp (result_byRank w _ a ▸ ha)
        have hreadable : ∀ b ∈ before, w.readable b = true := by
          intro b hb
          obtain ⟨c, hc⟩ := hbefore b hb
          rw [result_byRank] at hc
          unfold World.readable
          cases hb' : w.answer (.getInt b.settingKey) with
          | ok required => rfl
          | error e' =>
            rw [hb'] at hc
            cases hc
        have hunreadable : w.readable a = false := by
          rw [World.readable, hread]
          rfl
        refine ⟨.getInt a.settingKey, ?_, hread, fun id h => by cases h⟩
        rw [asked_evaluate_bound w _ ⟨hu, hfound, hexempt⟩]
        exact List.mem_append_right _ (List.mem_map_of_mem (mem_untilFailure hreadable hunreadable))

/-- Unless the user or a threshold cannot be looked up, there are verdicts: for each action the one
that it has alone. -/
theorem checkEach_eq_ok (h : ∀ c e, .call c ∈ w.asked (checkEach user actions object).run →
      w.answer c = .error e → ∃ id, c = .objectInfo id) :
    ∃ bs, w.result (checkEach user actions object).run = .ok bs ∧
      List.Forall₂ (fun a b => w.result (check user a object).run = .ok b) actions bs := by
  cases hr : w.result (checkEach user actions object).run with
  | error e =>
    rw [result_checkEach] at hr
    obtain ⟨c, hc, hfails, hno⟩ := call_of_evaluate_error (map_eq_error.mp hr)
    obtain ⟨id, rfl⟩ := h c e (by rw [asked_checkEach]; exact List.mem_append_left _ hc) hfails
    exact absurd rfl (hno id)
  | ok bs =>
    refine ⟨bs, rfl, ?_⟩
    by_cases hne : actions = []
    · subst hne
      rw [result_checkEach] at hr
      obtain ⟨cs, hcs, rfl⟩ := map_eq_ok.mp hr
      obtain rfl := List.map_eq_nil_iff.mp (actions_of_evaluate w hcs)
      exact .nil
    · exact mapM_eq_ok_iff.mp ((result_batch w hne user object).symm.trans hr)

theorem checkEach_nobody (w : World) (actions : List Action) (object : String) :
    w.result (checkEach "" actions object).run = .ok (actions.map fun _ => false) ∧
      ∀ c, .call c ∉ w.asked (checkEach "" actions object).run := by
  have hevaluate : w.result (evaluate "" actions object).run = .ok (uniform actions false) := rfl
  have hasked : w.asked (evaluate "" actions object).run = [] := rfl
  refine ⟨?_, fun c hc => ?_⟩
  · rw [result_checkEach, hevaluate]
    exact congrArg Except.ok List.map_map
  · rw [asked_checkEach, hevaluate, hasked, List.nil_append] at hc
    obtain ⟨check, -, hcount⟩ := List.mem_map.mp hc
    cases hcount

end Rank

/-! ## Answers -/

/-- The data has each of some names of actions once, with the verdict on that action. -/
def Json.Answers (data : Json) (verdict : Action → Except ServiceError Bool) (names : List String) :
    Prop :=
  ∃ ms, data = .members ms ∧ (ms.map Prod.fst).Nodup ∧
    (∀ name, name ∈ ms.map Prod.fst ↔ name ∈ names) ∧
    ∀ name v, (name, v) ∈ ms → ∃ a b, Action.ofName? name = some a ∧ verdict a = .ok b ∧ v = .bool b

/-- The data of the reply to some verdicts. -/
def Endpoint.verdicts (actions : List Action) (allowed : List Bool) : Json :=
  .object ((actions.map Action.name).zip (allowed.map .bool))

/-- **Every action has its own verdict** in the data, however often it is named. -/
theorem Endpoint.answers_verdicts {verdict : Action → Except ServiceError Bool}
    {actions : List Action} {allowed : List Bool}
    (h : List.Forall₂ (fun a b => verdict a = .ok b) actions allowed) :
    (verdicts actions allowed).Answers verdict (actions.map Action.name) := by
  obtain ⟨hlength, hpairs⟩ := List.forall₂_iff_zip.mp h
  have member : ∀ name v, (name, v) ∈ (actions.map Action.name).zip (allowed.map Json.bool) →
      ∃ a b, Action.ofName? name = some a ∧ verdict a = .ok b ∧ v = .bool b := by
    intro name v hmem
    rw [List.zip_map] at hmem
    obtain ⟨⟨a, b⟩, hab, heq⟩ := List.mem_map.mp hmem
    cases heq
    exact ⟨a, b, Action.ofName?_eq_some_iff.mpr rfl, hpairs hab, rfl⟩
  -- An action that is named twice has the same verdict both times.
  have agree : ∀ name x y, (name, x) ∈ (actions.map Action.name).zip (allowed.map Json.bool) →
      (name, y) ∈ (actions.map Action.name).zip (allowed.map Json.bool) → x = y := by
    intro name x y hx hy
    obtain ⟨a, b, ha, hb, rfl⟩ := member name x hx
    obtain ⟨a', b', ha', hb', rfl⟩ := member name y hy
    obtain rfl : a = a' := Option.some.inj (ha.symm.trans ha')
    rw [Except.ok.inj (hb.symm.trans hb')]
  obtain ⟨ms, hms, hsorted, hmem⟩ := Json.object_eq_members agree
  refine ⟨ms, hms, hsorted.imp ne_of_lt, fun name => ?_, fun name v hv => ?_⟩
  · have hfst : ((actions.map Action.name).zip (allowed.map Json.bool)).map Prod.fst =
        actions.map Action.name := List.map_fst_zip (by simp [hlength])
    rw [← hfst, List.mem_map, List.mem_map]
    simp only [Prod.exists, hmem]
  · exact member name v ((hmem name v).mp hv)

namespace Endpoint

variable {c : Context} {r : Request} {q : PermissionQuery}

theorem permissions_eq (hq : r.form.permissionQuery? = some q)
    (hlength : 1 ≤ q.action.length ∧ q.action.length ≤ 1024) :
    permissions c r = match q.actions with
      | .ok actions => do
        return verdicts actions (← Handler.ofFallible (Rank.checkEach c.userId actions q.object))
      | .error e => throw (ApiError.ofService e) := by
  have hchecked : Handler.checked PermissionQuery.faults q = .ok q := by
    have hfaults : q.faults = [] := if_pos hlength
    rw [Handler.checked, hfaults]
  unfold permissions
  rw [hq]
  change (Handler.known (Handler.checked PermissionQuery.faults q) >>= _) = _
  rw [hchecked]
  change (Handler.known (q.actions.mapError ApiError.ofService) >>= _) = _
  cases q.actions <;> rfl

variable (w : World)

theorem result_handle_permission : w.result (handle c r .permission) =
    match w.result (permissions c r).run with
    | .ok data => .envelope (.success data)
    | .error e => .envelope e.envelope := by
  unfold handle
  rw [World.result_bind]
  cases w.result (permissions c r).run <;> rfl

theorem asked_handle_permission :
    w.asked (handle c r .permission) = w.asked (permissions c r).run := by
  unfold handle
  rw [World.asked_bind]
  cases w.result (permissions c r).run <;> exact List.append_nil _

theorem asked_verdicts {actions : List Action} (p : Fallible (List Bool)) :
    w.asked (do return verdicts actions (← Handler.ofFallible p) : Handler Json).run =
      w.asked p.run := by
  rw [World.asked_bind_pure_except]
  exact (w.asked_bind _ _).trans (List.append_nil _)

end Endpoint

/-! ## Responses -/

namespace Server

/-- The request is a question about permissions, on behalf of a caller or of nobody, and the text of
the actions is neither empty nor too long. -/
structure AsksPermissions (s : Server) (now : Int) (r : Request) (caller : Option Caller)
    (q : PermissionQuery) : Prop where
  method : r.method = "GET"
  endpoint : r.endpoint? = some .permission
  caller : s.authenticate now r = .ok caller
  query : r.form.permissionQuery? = some q
  length : 1 ≤ q.action.length ∧ q.action.length ≤ 1024

variable {w : World} {s : Server} {now : Int} {r : Request} {caller : Option Caller}
  {q : PermissionQuery} (h : s.AsksPermissions now r caller q)

namespace AsksPermissions

include h

theorem result_respond : w.result (s.respond now r) =
    (match w.result (Endpoint.permissions ⟨caller, r.language⟩ r).run with
      | .ok data => Reply.envelope (.success data)
      | .error e => .envelope e.envelope).localize r.language := by
  have hget : r.method ≠ "HEAD" := by
    rw [h.method]
    decide
  rw [Server.result_respond, h.caller]
  dsimp only
  rw [reply_eq h.endpoint, Endpoint.result_handle_permission]
  exact if_neg hget

theorem call_mem_asked_respond {c : Call} : .call c ∈ w.asked (s.respond now r) ↔
    .call c ∈ w.asked (Endpoint.permissions ⟨caller, r.language⟩ r).run := by
  have hconclude : ∀ reply, Effect.call c ∉ w.asked (conclude r reply) := by
    intro reply hmem
    cases List.mem_singleton.mp hmem
  rw [(sees_of_authenticate h.caller).2, World.asked_bind, reply_eq h.endpoint,
    Endpoint.asked_handle_permission, List.mem_append, or_iff_left (hconclude _)]

/-- **A name that is that of no action** is refused, and nothing is called. -/
theorem respond_of_unknown {n : String} (hactions : q.actions = .error (.unknownAction n)) :
    w.result (s.respond now r) = (Reply.envelope ⟨400, "base.request_format_error",
      .object [("error", .text ("未知的操作: " ++ n))]⟩).localize r.language ∧
    ∀ c, .call c ∉ w.asked (s.respond now r) := by
  have hrefused : Endpoint.permissions ⟨caller, r.language⟩ r =
      throw (ApiError.ofService (.unknownAction n)) := by
    rw [Endpoint.permissions_eq h.query h.length, hactions]
  refine ⟨?_, fun c hc => ?_⟩
  · rw [h.result_respond, hrefused]
    rfl
  · rw [h.call_mem_asked_respond, hrefused] at hc
    cases hc

variable {actions : List Action} (hactions : q.actions = .ok actions)

include hactions

theorem call_mem_asked_of_known {c : Call} : .call c ∈ w.asked (s.respond now r) ↔
    .call c ∈ w.asked
      (Rank.checkEach (Context.userId ⟨caller, r.language⟩) actions q.object).run := by
  rw [h.call_mem_asked_respond, Endpoint.permissions_eq h.query h.length, hactions]
  dsimp only
  rw [Endpoint.asked_verdicts]

/-- **Verdicts on all names** are the answer. -/
theorem respond_of_verdicts {verdict : Action → Except ServiceError Bool} {bs : List Bool}
    (hbs : w.result (Rank.checkEach (Context.userId ⟨caller, r.language⟩) actions q.object).run =
      .ok bs)
    (hverdict : List.Forall₂ (fun a b => verdict a = .ok b) actions bs) :
    ∃ data, w.result (s.respond now r) =
        (Reply.envelope (.success data)).localize r.language ∧
      data.Answers verdict q.names := by
  refine ⟨Endpoint.verdicts actions bs, ?_, ?_⟩
  · rw [h.result_respond, Endpoint.permissions_eq h.query h.length, hactions]
    dsimp only
    rw [World.result_bind_except, World.result_ofFallible, hbs]
    rfl
  · rw [PermissionQuery.actions_eq_ok_iff.mp hactions]
    exact Endpoint.answers_verdicts hverdict

end AsksPermissions

/-- **Questions about permissions.** If some names are those of no action, the first of them is
refused by name, and nothing is called. If there are none, and no call fails but look-ups of the
object, the data of the response has every name once, with the verdict that the action has alone. An
anonymous caller may do none of the actions, and nothing is called to find this out. -/
theorem permissions_answered (h : s.AsksPermissions now r caller q) (w : World) :
    (∀ before n after, q.names = before ++ n :: after →
      (∀ m ∈ before, Action.ofName? m ≠ none) → Action.ofName? n = none →
        w.result (s.respond now r) = (Reply.envelope ⟨400, "base.request_format_error",
          .object [("error", .text ("未知的操作: " ++ n))]⟩).localize r.language ∧
        ∀ c, .call c ∉ w.asked (s.respond now r)) ∧
    ((∀ n ∈ q.names, Action.ofName? n ≠ none) →
      (∀ c e, .call c ∈ w.asked (s.respond now r) → w.answer c = .error e →
        ∃ id, c = .objectInfo id) →
      ∃ data, w.result (s.respond now r) =
          (Reply.envelope (.success data)).localize r.language ∧
        data.Answers (fun a => w.result
          (Rank.check (Context.userId ⟨caller, r.language⟩) a q.object).run) q.names) ∧
    (caller = none → (∀ n ∈ q.names, Action.ofName? n ≠ none) →
      (∃ data, w.result (s.respond now r) =
          (Reply.envelope (.success data)).localize r.language ∧
        data.Answers (fun _ => .ok false) q.names) ∧
      ∀ c, .call c ∉ w.asked (s.respond now r)) := by
  refine ⟨fun before n after hnames hbefore hn => ?_, fun hknown hcalls => ?_,
    fun hnone hknown => ?_⟩
  · exact h.respond_of_unknown (PermissionQuery.actions_eq_error hnames hbefore hn)
  · obtain ⟨actions, hactions⟩ := PermissionQuery.actions_of_known hknown
    obtain ⟨bs, hbs, heach⟩ := Rank.checkEach_eq_ok fun c e hc =>
      hcalls c e ((h.call_mem_asked_of_known hactions).mpr hc)
    exact h.respond_of_verdicts hactions hbs heach
  · obtain ⟨actions, hactions⟩ := PermissionQuery.actions_of_known hknown
    subst hnone
    obtain ⟨hresult, hcalls⟩ := Rank.checkEach_nobody w actions q.object
    refine ⟨h.respond_of_verdicts hactions hresult ?_, fun c hc => ?_⟩
    · exact List.forall₂_map_right_iff.mpr (List.forall₂_same.mpr fun _ _ => rfl)
    · exact hcalls c ((h.call_mem_asked_of_known hactions).mp hc)

/-- Ann asks what she may do. She names one action twice. -/
def annsQuestion : Request := annsRequest "GET"
  "/answer/api/v1/permission?action=question.edit,tag.edit,+question.edit,&objectId=" ""

/-- An anonymous question. -/
def nobodysQuestion (actions : String) : Request where
  method := "GET"
  target := ("/answer/api/v1/permission?action=" ++ actions).toList

theorem query_eq {r : Request} {action : String} {objectId : Option String}
    (h : r.form.permissionQuery?.map (fun q => (q.action, q.objectId)) = some (action, objectId)) :
    r.form.permissionQuery? = some ⟨action, objectId⟩ := by
  obtain ⟨q, hq, hpair⟩ := Option.map_eq_some_iff.mp h
  cases hpair
  exact hq

theorem asksPermissions_ann : annsServer.AsksPermissions 0 annsQuestion (some ⟨"ann", "ann"⟩)
    ⟨"question.edit,tag.edit, question.edit,", some ""⟩ where
  method := rfl
  endpoint := by decide +kernel
  caller := authenticate_ann (by decide +kernel)
  query := query_eq (by decide +kernel)
  length := by decide +kernel

/-- Ann may edit questions and no tags. An anonymous caller may not add tags, and is told that
nobody can burn them. -/
theorem permissions_answered_ann :
    annsServer.AsksPermissions 0 annsQuestion (some ⟨"ann", "ann"⟩)
      ⟨"question.edit,tag.edit, question.edit,", some ""⟩ ∧
    (∃ data, Rank.office.result (annsServer.respond 0 annsQuestion) =
        (Reply.envelope (.success data)).localize .english ∧
      data.Answers (fun a => Rank.office.result (Rank.check "ann" a "").run)
        ["question.edit", "tag.edit", "question.edit"]) ∧
    (∃ data, Rank.office.result (annsServer.respond 0 (nobodysQuestion "tag.add")) =
        (Reply.envelope (.success data)).localize .english ∧
      data.Answers (fun _ => .ok false) ["tag.add"]) ∧
    Rank.office.result (annsServer.respond 0 (nobodysQuestion "tag.add,tag.burn,tag.drown")) =
      (Reply.envelope ⟨400, "base.request_format_error",
        .object [("error", .text "未知的操作: tag.burn")]⟩).localize .english := by
  have hknown : ∀ n ∈ PermissionQuery.names ⟨"question.edit,tag.edit, question.edit,", some ""⟩,
      Action.ofName? n ≠ none := by
    decide +kernel
  have hactions : PermissionQuery.actions ⟨"question.edit,tag.edit, question.edit,", some ""⟩ =
      .ok [.questionEdit, .tagEdit, .questionEdit] :=
    PermissionQuery.actions_eq_ok_iff.mpr (by decide +kernel)
  have hcalls : ∀ c e, .call c ∈ Rank.office.asked (annsServer.respond 0 annsQuestion) →
      Rank.office.answer c = .error e → ∃ id, c = .objectInfo id := by
    intro c e hc he
    rw [asksPermissions_ann.call_mem_asked_of_known hactions] at hc
    have hmem : Effect.call c ∈ [Effect.call (.userById "ann"),
        .call (.getInt "rank.question.edit"), .call (.getInt "rank.tag.edit"),
        .call (.getInt "rank.question.edit"),
        .count (.permissionCheck .questionEdit true), .count (.permissionCheck .tagEdit false),
        .count (.permissionCheck .questionEdit true)] := hc
    simp only [List.mem_cons, Effect.call.injEq, reduceCtorEq, List.not_mem_nil, or_false] at hmem
    rcases hmem with rfl | rfl | rfl | rfl <;> cases he
  have hnames : PermissionQuery.names ⟨"question.edit,tag.edit, question.edit,", some ""⟩ =
      ["question.edit", "tag.edit", "question.edit"] := by
    decide +kernel
  have hadd : annsServer.AsksPermissions 0 (nobodysQuestion "tag.add") none ⟨"tag.add", none⟩ :=
    ⟨rfl, by decide +kernel, rfl, query_eq (by decide +kernel), by decide +kernel⟩
  have hburn : annsServer.AsksPermissions 0 (nobodysQuestion "tag.add,tag.burn,tag.drown") none
      ⟨"tag.add,tag.burn,tag.drown", none⟩ :=
    ⟨rfl, by decide +kernel, rfl, query_eq (by decide +kernel), by decide +kernel⟩
  refine ⟨asksPermissions_ann, ?_, ?_, ?_⟩
  · rw [← hnames]
    exact (permissions_answered asksPermissions_ann Rank.office).2.1 hknown hcalls
  · exact ((permissions_answered hadd Rank.office).2.2 rfl (by decide +kernel)).1
  · exact ((permissions_answered hburn Rank.office).1 ["tag.add"] "tag.burn" ["tag.drown"]
      (by decide +kernel) (by decide +kernel) (by decide +kernel)).1

end Server

end Forum
