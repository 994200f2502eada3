import Forum.Proofs.Connection
import Forum.Proofs.VoteCount

/-!
# Votes one after another

What votes that are recorded one after another make of the rows of votes and of the counts of posts,
wherever one of them fails.

* `Votes.ballots`: the votes and the counts of the tables;
* `Votes.Cast.Records`: what a vote that goes well answers, and makes of the tables;
* **`does_recordVote`**: a vote makes that, or nothing;
* `Votes.Single`: a post whose id no other one has;
* **`Cast.Records.balance`**: a vote leaves the count of a post over the sum of its votes as it was;
* **`votes_recorded`**: so do all votes, and each goes as it should.
-/

namespace Forum.Votes

open Sql Storage Tables

variable {T T' : Tables} {user id : String} {p : Post}

/-- The votes and the counts of the tables. -/
def ballots (T : Tables) : Key → Option Int
  | .vote user id => vote? T user id
  | .post p id => count? T p id

namespace Cast

variable (c : Cast)

/-- The vote of a user after a call: the same vote a second time takes it back. -/
def after (earlier : Option Int) : Option Int :=
  if earlier = some (direction c.up) then none else some (direction c.up)

/-- The user's vote on the object before a call. -/
def earlier (T : Tables) : Option Int := vote? T c.user c.object.objectId

/-- What the object counts more after a call. -/
def gain (T : Tables) : Int := Ballot.value (c.after (c.earlier T)) - Ballot.value (c.earlier T)

/-- What a call that goes well answers, and makes of the tables: the vote, and the count of the
object. -/
structure Records (v : VoteResult) (T T' : Tables) : Prop where
  userVote : v.userVote = Ballot.value (c.after (c.earlier T))
  vote : vote? T' c.user c.object.objectId = c.after (c.earlier T)
  count : ∃ p n, Post.ofKind? c.object.kind = some p ∧ count? T p c.object.objectId = some n ∧
    v.voteCount = n + c.gain T ∧ count? T' p c.object.objectId = some v.voteCount ∧
    ∀ k, k ≠ .vote c.user c.object.objectId → k ≠ .post p c.object.objectId → T' k = T k

/-- An object that cannot be voted on, or is not there, and the error that tells so. -/
def Misses (T : Tables) (e : ServiceError) : Prop :=
  (Post.ofKind? c.object.kind = none ∧ e = .validation (c.object.kind.name ++ " 不支持投票")) ∨
    ∃ p, Post.ofKind? c.object.kind = some p ∧ count? T p c.object.objectId = none ∧
      e = .objectNotFound c.object.objectId

end Cast

/-! ## The statements of a vote -/

section Statements

variable {s : Course} {m : Mode} {bad : ServiceError → Prop}
  (fails : ∀ e, s.Fails e → bad (.database e))

include fails

theorem does_lockVote : s.Does m
    (fetchOptional (.lockVote user id) (scalar (.int .int16))).run T
    (Ends (fun earlier T' => earlier = vote? T user id ∧ T' = T) fun e _ => bad e) := by
  refine Course.does_alter_cases run_fetchOptional (fun _ => rfl) fails (fun _ hnone => ?_)
    fun _ w hw => ?_
  · refine ⟨?_, rfl⟩
    cases hv : T (.vote user id) with
    | none => rw [vote?, hv, Option.bind_none]
    | some v =>
      cases hd : v.vote? with
      | none => rw [vote?, hv, Option.bind_some, hd]
      | some d => simp [hv, hd] at hnone
  · obtain ⟨v, hv, hlock⟩ := Option.bind_eq_some_iff.mp hw
    cases v with
    | vote kind direction =>
      cases hlock
      refine ⟨by simp [vote?, hv, Row.vote?], ?_⟩
      rw [← hv, Function.update_eq_self]
    | _ => cases hlock

theorem does_storeVote {o : ObjectInfo} {up : Bool} {earlier : Option Int} : s.Does m
    (storeVote user o earlier up).run T
    (Ends (fun v T' => ∃ row,
      T' = Function.update T (.vote user o.objectId) row ∧
      row.bind Row.vote? =
        (if earlier = some (direction up) then none else some (direction up)) ∧
      v = Ballot.value (row.bind Row.vote?)) fun e _ => bad e) := by
  unfold storeVote
  split
  · refine Course.does_bind_except (Course.does_statement run_execute fails (fun n hn => ?_)
      fun n o T' h => ⟨?_, fun e he => fails e he.fails⟩)
    · cases hn
    · cases h
      exact Course.does_pure ⟨none, rfl, rfl, rfl⟩
  · refine Course.does_bind_except (Course.does_make run_execute (fun _ => rfl) fails
      (fun hrefused => ?_) fun n v hv => Course.does_pure ?_)
    · rcases hrefused with ⟨k, hk, -⟩ | hnone
      · cases hk
      · split at hnone <;> cases hnone
    · split at hv <;> cases hv <;> exact ⟨_, rfl, rfl, rfl⟩

theorem does_addToVotes {d : Int} (missing : count? T p id = none → bad (.objectNotFound id)) :
    s.Does m (fetchOn id (.addToVotes p d id) (scalar (.int .int64))).run T
    (Ends (fun count T' => ∃ n row, count? T p id = some n ∧ count = n + d ∧
      T' = Function.update T (.post p id) (some row) ∧ row.count? p = some (n + d))
      fun e _ => bad e) := by
  refine Course.does_alter_cases run_fetchOn (fun _ => rfl) fails (fun _ hnone => ?_)
    fun number w hw => ?_
  · refine missing ?_
    cases hv : T (.post p id) with
    | none => rw [count?, hv, Option.bind_none]
    | some v =>
      rw [hv, Option.bind_some, Row.addVotes_eq_none] at hnone
      rw [count?, hv, Option.bind_some, hnone]
  · obtain ⟨v, hv, hadd⟩ := Option.bind_eq_some_iff.mp hw
    obtain ⟨n, hn, hn'⟩ := Row.count?_addVotes hadd
    have hcount : count? T p id = some n := by rw [count?, hv, Option.bind_some, hn]
    have hreply : outcome number (.addToVotes p d id) [w] 1 =
        ⟨[[("vote_count", .int64 (n + d))]], 1⟩ := by simp [outcome, returned, hn']
    rw [hreply, first_cons]
    exact ⟨n, w, hcount, rfl, rfl, hn'⟩

end Statements

/-! ## One vote -/

variable {s : Course} {c : Cast}

/-- **A vote** goes well, and makes what it should; or it fails, and makes nothing unless the answer
to its commit is lost. It fails only if an operation does, or if there is nothing to vote on. -/
theorem does_recordVote : s.Does .alone c.program T (Ends (fun v T' => c.Records v T T')
    fun e T' => T' = T ∧ ((∃ e', s.Fails e' ∧ e = .database e') ∨ c.Misses T e) ∨
      ∃ v e', s.Loses e' ∧ c.Records v T T') := by
  unfold Cast.program recordVote
  cases hp : Post.ofKind? c.object.kind with
  | none => exact Course.does_pure (.inl ⟨rfl, .inr (.inl ⟨hp, rfl⟩)⟩)
  | some p =>
    let bad : ServiceError → Prop := fun e =>
      (∃ e', s.Fails e' ∧ e = .database e') ∨ c.Misses T e
    have fails : ∀ e, s.Fails e → bad (.database e) := fun e he => .inl ⟨e, he, rfl⟩
    refine Course.does_transaction (B := bad) ?_ (fun e he => .inl ⟨rfl, fails e he⟩)
      (fun e he => .inl ⟨rfl, he⟩) fun v T' e hv he => .inr ⟨v, e, he, hv⟩
    refine Course.does_seq (does_lockVote fails) fun earlier T₁ h₁ => ?_
    obtain ⟨rfl, hT₁⟩ := h₁
    obtain rfl : T = T₁ := hT₁.symm
    refine Course.does_seq (does_storeVote fails) fun vote T₂ ⟨row, hT₂, hrow, hvote⟩ => ?_
    have hcount : count? T₂ p c.object.objectId = count? T p c.object.objectId := by
      rw [count?, hT₂, Function.update_of_ne Tables.Key.post_ne_vote, count?]
    refine Course.does_seq (does_addToVotes fails fun hnone => ?_)
      fun count T₃ ⟨n, row', hn, hgain, hT₃, hrow'⟩ => Course.does_pure ?_
    · exact .inr (.inr ⟨p, hp, hcount ▸ hnone, rfl⟩)
    have hafter : row.bind Row.vote? = c.after (c.earlier T) := hrow
    rw [hafter] at hvote
    refine ⟨hvote, ?_, p, n, hp, hcount ▸ hn, ?_, ?_, fun k hk hk' => ?_⟩
    · rw [vote?, hT₃, Function.update_of_ne Tables.Key.post_ne_vote.symm, hT₂,
        Function.update_self, hafter]
    · rw [hgain, hvote]
      rfl
    · rw [count?, hT₃, Function.update_self, Option.bind_some, hrow', hgain]
    · rw [hT₃, Function.update_of_ne hk', hT₂, Function.update_of_ne hk]

/-! ## The count and the votes -/

theorem Cast.Records.ballots_eq {v : VoteResult} {q : Post} (h : c.Records v T T')
    (hq : Post.ofKind? c.object.kind = some q) : ballots T' = Function.update
      (Function.update (ballots T) (.vote c.user c.object.objectId) (c.after (c.earlier T)))
      (.post q c.object.objectId) (some v.voteCount) := by
  obtain ⟨p, n, hp, -, -, hcount, hframe⟩ := h.count
  obtain rfl : p = q := by
    rw [hp] at hq
    exact Option.some.inj hq
  funext k
  by_cases hpost : k = .post p c.object.objectId
  · rw [hpost, Function.update_self]
    exact hcount
  by_cases hvote : k = .vote c.user c.object.objectId
  · rw [Function.update_of_ne hpost, hvote, Function.update_self]
    exact h.vote
  rw [Function.update_of_ne hpost, Function.update_of_ne hvote]
  cases k with
  | vote user id =>
    have hrow : T' (.vote user id) = T (.vote user id) := by
      refine hframe _ ?_ Tables.Key.post_ne_vote.symm
      simpa using hvote
    rw [ballots, ballots, vote?, vote?, hrow]
  | post q id =>
    have hrow : T' (.post q id) = T (.post q id) := by
      refine hframe _ Tables.Key.post_ne_vote ?_
      rw [ne_eq, Tables.Key.post_inj]
      simpa using hpost
    rw [ballots, ballots, count?, count?, hrow]

/-- A post has votes of finitely many users, and no other post has its id. -/
structure Single (p : Post) (id : String) (T : Tables) : Prop where
  few : FewVotes id (ballots T)
  only : ∀ q, q ≠ p → count? T q id = none

theorem single_of_told
    (htold : ∀ q id, count? T q id ≠ none → ObjectKind.ofObjectId? id = some q.kind)
    (hid : ObjectKind.ofObjectId? id = some p.kind) (hfew : FewVotes id (ballots T)) :
    Single p id T where
  few := hfew
  only q hq := by
    by_contra hcount
    have hkind : q.kind = p.kind := by
      rw [htold q id hcount] at hid
      exact Option.some.inj hid
    exact hq (by cases q <;> cases p <;> cases hkind <;> rfl)

/-- **A vote** moves the count of its post by as much as the sum of the votes on it. -/
theorem Cast.Records.balance {v : VoteResult} (h : c.Records v T T') (hT : Single p id T) :
    Single p id T' ∧ balance p id (ballots T') = balance p id (ballots T) := by
  obtain ⟨q, n, hq, hn, hgain, -, -⟩ := h.count
  have hballots := h.ballots_eq hq
  have hpost : c.object.objectId = id → q = p := by
    intro hid
    by_contra hne
    have hnone := hT.only q hne
    rw [← hid, hn] at hnone
    cases hnone
  refine ⟨⟨hballots ▸ fewVotes_update hT.few, fun q' hq' => ?_⟩, ?_⟩
  · have hother : Key.post q' id ≠ .post q c.object.objectId := by
      intro he
      cases he
      exact hq' (hpost rfl)
    have hsame := congrFun hballots (.post q' id)
    rw [Function.update_of_ne hother, Function.update_of_ne (by simp)] at hsame
    exact hsame.trans (hT.only q' hq')
  · rw [Votes.balance, Votes.balance, hballots, count_update hpost, votes_update hT.few]
    by_cases hid : c.object.objectId = id
    · obtain rfl := hpost hid
      subst hid
      have hcount : Votes.count (ballots T) q c.object.objectId = n := congrArg Ballot.value hn
      have hmove : Ballot.value (c.after (c.earlier T)) -
          Ballot.value (ballots T (.vote c.user c.object.objectId)) = c.gain T := rfl
      have hvalue : Ballot.value (some v.voteCount) = v.voteCount := rfl
      rw [if_pos rfl, if_pos rfl, hmove, hvalue, hgain, hcount]
      omega
    · rw [if_neg hid, if_neg hid, add_zero]

/-! ## Many votes -/

/-- A call as a change of content. -/
def Cast.write (c : Cast) : Write := .recordVote c.user c.object c.up

theorem keeps_balance {b : Int} : s.Keeps .alone
    (fun T => Single p id T ∧ balance p id (ballots T) = b) (change c.write) := by
  rintro T ⟨hT, hb⟩
  have hrecords : ∀ {v T'}, c.Records v T T' →
      Single p id T' ∧ balance p id (ballots T') = b := fun h => by
    obtain ⟨hT', hbalance⟩ := h.balance hT
    exact ⟨hT', hbalance.trans hb⟩
  refine (does_recordVote (c := c)).mono fun r T' hr => ?_
  cases r with
  | ok v => exact hrecords hr
  | error e =>
    rcases hr with ⟨rfl, -⟩ | ⟨v, -, -, h⟩
    · exact ⟨hT, hb⟩
    · exact hrecords h

theorem working_changes {cs : List Cast} :
    (s.changes (cs.map Cast.write) { stored := T }).working = none := Course.working_changes rfl

theorem balance_changes {cs : List Cast} (hT : Single p id T) :
    balance p id (ballots (s.changes (cs.map Cast.write) { stored := T }).stored) =
      balance p id (ballots T) := by
  have hkeeps : ∀ w ∈ cs.map Cast.write, s.Keeps .alone
      (fun T' => Single p id T' ∧ balance p id (ballots T') = balance p id (ballots T))
      (change w) := by
    intro w hw
    obtain ⟨c, -, rfl⟩ := List.mem_map.mp hw
    exact keeps_balance
  exact (Course.keeps_changes hkeeps rfl ⟨hT, rfl⟩).2.2

theorem not_loses_failing {failure : Nat → Option StorageError} {number : Nat → Int}
    {refusal e : StorageError} : ¬(Course.failing failure number refusal).Loses e := by
  rintro ⟨n, hn⟩
  rw [Course.failing] at hn
  cases hf : failure n <;> simp [hf] at hn

theorem fails_failing {failure : Nat → Option StorageError} {number : Nat → Int}
    {refusal e : StorageError} (h : (Course.failing failure number refusal).Fails e) :
    ∃ n, failure n = some e := by
  obtain ⟨n, hn | hn⟩ := h
  · refine ⟨n, ?_⟩
    rw [Course.failing] at hn
    cases hf : failure n <;> simp_all
  · exact absurd ⟨n, hn⟩ not_loses_failing

/-- **Votes that are recorded one after another**, each of which may fail at any operation. After
any of them, the next goes well and makes what it should; or it fails and changes nothing, which it
does only if an operation fails or there is nothing to vote on. The count of each post over the sum
of its votes is what it was at first. -/
theorem votes_recorded {failure : Nat → Option StorageError} {number : Nat → Int}
    {refusal : StorageError} {cs : List Cast} {after : Connection}
    (h : (Course.failing failure number refusal).changes (cs.map Cast.write) { stored := T } =
      after) :
    (∀ (c : Cast) r next, (Course.failing failure number refusal).run c.program after = (r, next) →
      (∃ v, r = .ok v ∧ c.Records v after.stored next.stored) ∨
      ∃ e, r = .error e ∧ next.stored = after.stored ∧
        ((∃ n e', failure n = some e' ∧ e = .database e') ∨ c.Misses after.stored e)) ∧
    ∀ p id, Single p id T → balance p id (ballots after.stored) = balance p id (ballots T) := by
  subst h
  refine ⟨fun c r next hrun => ?_, fun p id hT => balance_changes hT⟩
  obtain ⟨T', ⟨rfl, -⟩, hend⟩ := does_recordVote (c := c) _ ⟨rfl, working_changes⟩
  rw [hrun] at hend
  cases r with
  | ok v => exact .inl ⟨v, rfl, hend⟩
  | error e =>
    rcases hend with ⟨hsame, hbad⟩ | ⟨_, e', hlost, -⟩
    · refine .inr ⟨e, rfl, hsame, hbad.imp_left ?_⟩
      rintro ⟨e', he', rfl⟩
      obtain ⟨n, hn⟩ := fails_failing he'
      exact ⟨n, e', hn, rfl⟩
    · exact absurd hlost not_loses_failing

/-- The question, which nobody has voted on. -/
def asked : Tables := fun k =>
  if k = Tables.Key.post .question question then
    some (.question { userId := "author", title := "Why?", content := "" })
  else none

theorem single_asked : Single .question question asked := by
  refine single_of_told (fun q id hcount => ?_) (by decide) ?_
  · by_cases hk : Tables.Key.post q id = .post .question question
    · obtain ⟨rfl, rfl⟩ := Tables.Key.post_inj.mp hk
      decide
    · refine absurd ?_ hcount
      rw [count?, asked, if_neg hk, Option.bind_none]
  · exact Set.finite_empty.subset fun user hu => hu (by
    simp [ballots, vote?, asked, Tables.Key.post_ne_vote.symm])

/-- A course in which the eighth operation fails. -/
def unsteady : Course := .failing (fun n => if n = 7 then some .other else none) (fun _ => 1) .other

/-- The question after some clicks of one reader. -/
noncomputable def clicked (n : Nat) : Connection :=
  unsteady.changes ((List.replicate n click).map Cast.write) { stored := asked }

/-- Three clicks, during the second of which the database fails. That one changes nothing, and the
third takes the first one back. -/
theorem votes_recorded_asked :
    (∃ next, unsteady.run click.program (clicked 1) = (.error (.database .other), next) ∧
      next.stored = (clicked 1).stored) ∧
    (∃ next, unsteady.run click.program (clicked 2) = (.ok ⟨0, 0⟩, next) ∧
      click.Records ⟨0, 0⟩ (clicked 2).stored next.stored) ∧
    Single .question question asked ∧
    balance .question question (ballots (clicked 3).stored) =
      balance .question question (ballots asked) := by
  have hall (n : Nat) := votes_recorded (T := asked)
    (show unsteady.changes ((List.replicate n click).map Cast.write) _ = clicked n from rfl)
  refine ⟨⟨(unsteady.run click.program (clicked 1)).2, rfl, ?_⟩,
    ⟨(unsteady.run click.program (clicked 2)).2, rfl, ?_⟩, single_asked,
    (hall 3).2 _ _ single_asked⟩
  · rcases (hall 1).1 click _ _ rfl with ⟨v, hv, -⟩ | ⟨e, -, hsame, -⟩
    · cases hv
    · exact hsame
  · rcases (hall 2).1 click _ _ rfl with ⟨v, hv, hrecords⟩ | ⟨e, he, -⟩
    · cases hv
      exact hrecords
    · cases he

end Forum.Votes
