import Forum.Proofs.Votes
import Mathlib.Algebra.BigOperators.Finprod

/-!
# The count of a post and its votes

What any number of votes that are recorded at once make of the count of a post.

* `Votes.balance`: the count of a post over the sum of its votes;
* `Votes.overwritten`: the votes that a transaction takes the place of without having read them;
* **`balance_publish`**: one vote moves the balance by what it overwrites unread;
* **`votes_kept_iff`**: a run keeps the count in step with the votes exactly if the votes that were
  overwritten unread come to nothing;
* **`votes_kept_of_oncePerUser`**: it does if no user has more than one call on the post.
-/

namespace Forum.Votes

variable {i : Nat} {t : Rows Key Int} {cs : List Cast}

/-! ## The count and the votes -/

/-- The sum of the votes on an object. -/
noncomputable def votes (committed : Key → Option Int) (id : String) : Int :=
  ∑ᶠ user, Ballot.value (committed (.vote user id))

/-- The count of a post. -/
def count (committed : Key → Option Int) (p : Post) (id : String) : Int :=
  Ballot.value (committed (.post p id))

/-- The count of a post over the sum of its votes. -/
noncomputable def balance (p : Post) (id : String) (committed : Key → Option Int) : Int :=
  count committed p id - votes committed id

/-- An object has votes of finitely many users. -/
def FewVotes (id : String) (committed : Key → Option Int) : Prop :=
  {user | committed (.vote user id) ≠ none}.Finite

/-- The vote that a hold takes the place of without having read it. -/
def unread : Option (Grip Int) → Int
  | some g => if g.read then 0 else Ballot.value g.base
  | none => 0

/-- The votes on an object that a transaction takes the place of without having read them. -/
noncomputable def overwritten (g : Grips Key Int) (id : String) : Int :=
  ∑ᶠ user, unread (g (.vote user id))

theorem finsum_update {f : String → Int} (hf : f.HasFiniteSupport) (u : String) (v : Int) :
    ∑ᶠ x, Function.update f u v x = ∑ᶠ x, f x + (v - f u) := by
  let more : String → Int := Function.update 0 u (v - f u)
  have hsum : Function.update f u v = fun x => f x + more x := by
    funext x
    by_cases hx : x = u
    · simp [more, hx]
    · simp [more, hx]
  have hone : ∀ x, x ≠ u → more x = 0 := fun x hx => Function.update_of_ne hx _ _
  have hfin : more.HasFiniteSupport :=
    (Set.finite_singleton u).subset fun x hx => by_contra fun hne => hx (hone x hne)
  rw [hsum, finsum_add_distrib hf hfin, finsum_eq_single _ u hone]
  simp [more]

section Update

variable {rows : Key → Option Int} {user object id : String} {p q : Post} {v w : Option Int}

theorem fewVotes_update (hf : FewVotes id rows) : FewVotes id
    (Function.update (Function.update rows (.vote user object) v) (.post p object) w) := by
  refine (hf.insert user).subset fun user' hu => ?_
  rw [Set.mem_ofPred_eq] at hu
  by_cases hk : user' = user
  · exact .inl hk
  · refine .inr ?_
    rwa [Function.update_of_ne (by simp), Function.update_of_ne (by simp [hk])] at hu

theorem count_update (hp : object = id → q = p) :
    count (Function.update (Function.update rows (.vote user object) v) (.post q object) w) p id =
      if object = id then Ballot.value w else count rows p id := by
  by_cases hid : object = id
  · obtain rfl := hp hid
    subst hid
    rw [if_pos rfl, count, Function.update_self]
  · rw [if_neg hid, count, Function.update_of_ne (by simp [Ne.symm hid]),
      Function.update_of_ne (by simp), count]

theorem votes_update (hf : FewVotes id rows) :
    votes (Function.update (Function.update rows (.vote user object) v) (.post p object) w) id =
      votes rows id +
        if object = id then Ballot.value v - Ballot.value (rows (.vote user object)) else 0 := by
  by_cases hid : object = id
  · subst hid
    let before : String → Int := fun user => Ballot.value (rows (.vote user object))
    have hsum : (fun user' => Ballot.value (Function.update (Function.update rows
        (.vote user object) v) (.post p object) w (.vote user' object))) =
        Function.update before user (Ballot.value v) := by
      funext user'
      rw [Function.update_of_ne (by simp)]
      by_cases hu : user' = user
      · simp [hu]
      · simp [before, hu]
    have hfin : before.HasFiniteSupport :=
      hf.subset fun user hu hn => hu (congrArg Ballot.value hn)
    rw [votes, hsum, finsum_update hfin, if_pos rfl]
    rfl
  · rw [if_neg hid, add_zero]
    refine finsum_congr fun user' => ?_
    rw [Function.update_of_ne (by simp), Function.update_of_ne (by simp [Ne.symm hid])]

end Update

variable {b : Ballot} {id : String} {p : Post}

theorem committed_of_grips (h : t.grip i = b.grips) :
    t.committed (.vote b.user b.object) = b.base ∧
      t.committed (.post b.post b.object) = some b.count := by
  have hvote : t.grip i (.vote b.user b.object) = some ⟨b.base, b.vote, b.read⟩ := by
    simp [h, Ballot.grips]
  have hpost : t.grip i (.post b.post b.object) =
      some ⟨some b.count, some (b.count + b.delta), true⟩ := by
    simp [h, Ballot.grips]
  obtain ⟨_, -, -, hv⟩ := Rows.grip_eq_some.mp hvote
  obtain ⟨_, -, -, hp⟩ := Rows.grip_eq_some.mp hpost
  exact ⟨congrArg Grip.base hv, congrArg Grip.base hp⟩

theorem committed_publish (h : t.grip i = b.grips) :
    (t.publish i).committed = Function.update
      (Function.update t.committed (.vote b.user b.object) b.vote)
      (.post b.post b.object) (some (b.count + b.delta)) := by
  funext k
  rw [Rows.committed_publish, h, Ballot.grips]
  by_cases hp : k = .post b.post b.object
  · simp [hp]
  · rw [Function.update_of_ne hp, Function.update_of_ne hp]
    by_cases hv : k = .vote b.user b.object
    · simp [hv]
    · rw [Function.update_of_ne hv, Function.update_of_ne hv]
      rfl

theorem fewVotes_publish (h : t.grip i = b.grips) (hf : FewVotes id t.committed) :
    FewVotes id (t.publish i).committed := by
  rw [committed_publish h]
  exact fewVotes_update hf

theorem count_publish (h : t.grip i = b.grips) (hp : b.object = id → b.post = p) :
    count (t.publish i).committed p id =
      count t.committed p id + if b.object = id then b.delta else 0 := by
  rw [committed_publish h, count_update hp]
  by_cases hid : b.object = id
  · obtain rfl := hp hid
    subst hid
    rw [if_pos rfl, if_pos rfl, count, (committed_of_grips h).2]
    rfl
  · rw [if_neg hid, if_neg hid, add_zero]

theorem votes_publish (h : t.grip i = b.grips) (hf : FewVotes id t.committed) :
    votes (t.publish i).committed id = votes t.committed id +
      if b.object = id then Ballot.value b.vote - Ballot.value b.base else 0 := by
  rw [committed_publish h, votes_update hf, (committed_of_grips h).1]

theorem overwritten_of_grips (h : t.grip i = b.grips) :
    overwritten (t.grip i) id =
      if b.object = id ∧ b.read = false then Ballot.value b.base else 0 := by
  by_cases hid : b.object = id
  · subst hid
    rw [overwritten, h, finsum_eq_single _ b.user]
    · cases hr : b.read <;> simp [Ballot.grips, unread, hr]
    · intro user hu
      simp [Ballot.grips, hu, unread, Grips.nothing]
  · have hnone : ∀ user, unread (t.grip i (.vote user id)) = 0 := by
      intro user
      simp [h, Ballot.grips, Ne.symm hid, unread, Grips.nothing]
    rw [overwritten, finsum_congr hnone, finsum_zero, if_neg (fun hc => hid hc.1)]

/-- **A ballot** moves the count away from the votes by the vote that it overwrites unread. -/
theorem balance_publish (h : t.grip i = b.grips) (hp : b.object = id → b.post = p)
    (hf : FewVotes id t.committed) :
    balance p id (t.publish i).committed =
      balance p id t.committed + overwritten (t.grip i) id := by
  rw [balance, balance, count_publish h hp, votes_publish h hf, overwritten_of_grips h,
    Ballot.delta]
  by_cases hid : b.object = id
  · cases b.read
    · simp only [hid, if_true, Bool.false_eq_true, if_false, and_self]
      ring
    · simp only [hid, if_true, Bool.true_eq_false, and_false, if_false]
      ring
  · simp only [hid, if_false, false_and]
    ring

/-! ## Many votes -/

/-- Calls that record votes, at once and on rows that nobody holds yet. -/
def casts (committed : Key → Option Int) (cs : List Cast) :
    System Key Int (Except ServiceError VoteResult) :=
  ⟨⟨committed, fun _ => none⟩, cs.map Cast.program⟩

theorem casts_serves (committed : Key → Option Int) (cs : List Cast) :
    (casts committed cs).Serves database (terms cs) :=
  System.serves_map fun _ _ _ hc ht => serves_recordVote hc ht

/-- All calls on an object take it for a post of one kind. -/
def OfKind (cs : List Cast) (p : Post) (id : String) : Prop :=
  ∀ c ∈ cs, c.object.objectId = id → ∀ q, Post.ofKind? c.object.kind = some q → q = p

/-- No user has more than one call on an object. -/
def OncePerUser (cs : List Cast) (id : String) : Prop :=
  ∀ i (c : Cast), cs[i]? = some c → c.object.objectId = id → c.Alone cs i

theorem oncePerUser_of_nodup {cs : List Cast} {id : String} (h : (cs.map Cast.user).Nodup) :
    OncePerUser cs id := by
  intro i c hi _ j c' hj hkey
  have huser : c'.user = c.user := by
    simp only [Cast.key, Key.vote.injEq] at hkey
    exact hkey.1
  have hlt : j < (cs.map Cast.user).length := by
    rw [List.length_map]
    exact (List.getElem?_eq_some_iff.mp hj).1
  refine (List.getElem?_inj hlt h).mp ?_
  rw [List.getElem?_map, List.getElem?_map, hi, hj, Option.map_some, Option.map_some, huser]

/-- The votes on an object that the commits of a run overwrote unread. -/
noncomputable def overwrittenIn (committed : Key → Option Int) (cs : List Cast)
    (turns : List (Nat × Turn)) (id : String) : Int :=
  (((casts committed cs).commits database turns).map fun c =>
    overwritten (c.2.grip c.1) id).sum

variable {committed : Key → Option Int} {turns : List (Nat × Turn)}
  {s : System Key Int (Except ServiceError VoteResult)}

theorem vote_run {user : String} (hu : ∀ c ∈ cs, c.object.objectId = id → c.user ≠ user)
    (h : (casts committed cs).run database turns = some s) :
    Ballot.value (s.rows.committed (.vote user id)) =
      Ballot.value (committed (.vote user id)) := by
  have hrun := System.run_account (fun _ => True) (fun rows => Ballot.value (rows (.vote user id)))
    (fun _ _ => 0) (fun _ _ _ _ => trivial) ?_ (casts_serves committed cs) trivial h
  · simpa [casts] using hrun
  · rintro i t ⟨c, hc, b, ⟨huser, hobject, -⟩, hb, -⟩ _
    have hkey : Key.vote user id ≠ .vote b.user b.object := by
      intro he
      cases he
      exact hu c (List.mem_of_getElem? hc) hobject.symm huser.symm
    rw [committed_publish hb, Function.update_of_ne (by simp), Function.update_of_ne hkey, add_zero]

/-- What a run of votes makes of the balance of a post. -/
theorem balance_run (hk : OfKind cs p id) (hf : FewVotes id committed)
    (h : (casts committed cs).run database turns = some s) :
    balance p id s.rows.committed =
      balance p id committed + overwrittenIn committed cs turns id := by
  refine System.run_account (FewVotes id) (balance p id) (fun i t => overwritten (t.grip i) id)
    ?_ ?_ (casts_serves committed cs) hf h
  · rintro i t ⟨c, hc, b, -, hb, -⟩ hi
    exact fewVotes_publish hb hi
  · rintro i t ⟨c, hc, b, ⟨-, hobject, hpost⟩, hb, -⟩ hi
    refine balance_publish hb (fun hid => ?_) hi
    exact hk c (List.mem_of_getElem? hc) (hobject.symm.trans hid) b.post hpost

/-- Where no user has more than one call on an object, no vote on it is overwritten unread. -/
theorem overwrittenIn_eq_zero (ho : OncePerUser cs id) :
    overwrittenIn committed cs turns id = 0 := by
  refine List.sum_eq_zero fun v hv => ?_
  obtain ⟨commit, hcommit, rfl⟩ := List.mem_map.mp hv
  obtain ⟨c, hc, b, ⟨-, hobject, -⟩, hb, hbase⟩ :=
    System.atCommit_of_mem_commits (casts_serves committed cs) hcommit
  rw [overwritten_of_grips hb]
  split
  · next hread =>
    rw [hbase (ho commit.1 c hc (hobject.symm.trans hread.1)) hread.2]
    rfl
  · rfl

/-- **The count of a post keeps in step with its votes** over any number of votes at once, in any
order of their operations and whatever fails, exactly if the votes that were overwritten without
having been read come to nothing. -/
theorem votes_kept_iff (hk : OfKind cs p id) (hf : FewVotes id committed)
    (h : (casts committed cs).run database turns = some s) :
    count s.rows.committed p id - count committed p id =
        votes s.rows.committed id - votes committed id ↔
      overwrittenIn committed cs turns id = 0 := by
  have hb := balance_run hk hf h
  unfold balance at hb
  omega

/-- **So it does where no user has more than one call on the post**, however many users have one. -/
theorem votes_kept_of_oncePerUser (hk : OfKind cs p id) (hf : FewVotes id committed)
    (ho : OncePerUser cs id) (h : (casts committed cs).run database turns = some s) :
    count s.rows.committed p id - count committed p id =
      votes s.rows.committed id - votes committed id := by
  have hb := balance_run hk hf h
  rw [overwrittenIn_eq_zero ho] at hb
  unfold balance at hb
  omega

/-! ## Clicks on a question -/

/-- The id of a question. -/
def question : String := "10010000000000001"

/-- The rows of the question, which nobody has voted on. -/
def fresh : Key → Option Int := fun k => if k = .post .question question then some 0 else none

/-- A vote for the question, by a reader of it. -/
def click : Cast :=
  ⟨"reader", { objectId := question, kind := .question, creator := "author" }, true⟩

/-- The same vote of somebody else. -/
def otherClick : Cast := { click with user := "listener" }

/-- Turns of calls, all of whose operations are carried out. -/
def inTurn (places : List Nat) : List (Nat × Turn) := places.map (·, .done)

/-- Two calls at once: each looks for a vote before the other has stored one, and the second stores
its vote after the first is committed. -/
def doubleClick : List (Nat × Turn) := inTurn [0, 1, 0, 1, 0, 0, 0, 1, 1, 1]

/-- What a call has ended with, if it has ended well. -/
def result? : Storage (Except ServiceError VoteResult) → Option VoteResult
  | Program.done r => r.toOption
  | Program.ask _ _ => none

theorem fewVotes_fresh : FewVotes question fresh :=
  Set.finite_empty.subset fun user hu => hu (if_neg (by simp))

theorem votes_fresh : votes fresh question = 0 := by
  simp [votes, fresh, Ballot.value]

theorem ofKind_click {cs : List Cast} (h : ∀ c ∈ cs, c.object = click.object) :
    OfKind cs .question question := by
  intro c hc _ q hq
  rw [h c hc] at hq
  cases hq
  rfl

theorem votes_of_reader (hc : ∀ c ∈ cs, c.user = "reader")
    (h : (casts fresh cs).run database turns = some s) :
    votes s.rows.committed question =
      Ballot.value (s.rows.committed (.vote "reader" question)) := by
  refine finsum_eq_single _ "reader" fun user hu => ?_
  rw [vote_run (fun c hmem _ => (hc c hmem).trans_ne (Ne.symm hu)) h]
  rfl

theorem end_doubleClick : ((casts fresh [click, click]).run database doubleClick).map
    (fun s => (s.programs.map result?, s.rows.committed (.post .question question),
      s.rows.committed (.vote "reader" question))) =
    some ([some ⟨1, 1⟩, some ⟨2, 1⟩], some 2, some 1) := by
  decide +kernel

/-- Two users who vote at once overwrite nothing, and the count keeps in step with their votes. One
who votes twice at once overwrites a vote unread, and it does not. -/
theorem votes_kept_iff_at_once :
    OfKind [click, otherClick] .question question ∧ OfKind [click, click] .question question ∧
    FewVotes question fresh ∧
    (∃ s, (casts fresh [click, otherClick]).run database doubleClick = some s ∧
      overwrittenIn fresh [click, otherClick] doubleClick question = 0 ∧
      count s.rows.committed .question question - count fresh .question question =
        votes s.rows.committed question - votes fresh question) ∧
    ∃ s, (casts fresh [click, click]).run database doubleClick = some s ∧
      overwrittenIn fresh [click, click] doubleClick question ≠ 0 ∧
      count s.rows.committed .question question - count fresh .question question ≠
        votes s.rows.committed question - votes fresh question := by
  have hk : OfKind [click, otherClick] .question question := ofKind_click (by simp [otherClick])
  have hk' : OfKind [click, click] .question question := ofKind_click (by simp)
  obtain ⟨s, hs⟩ := Option.isSome_iff_exists.mp (show ((casts fresh [click, otherClick]).run
    database doubleClick).isSome = true by decide +kernel)
  have hnone : overwrittenIn fresh [click, otherClick] doubleClick question = 0 :=
    overwrittenIn_eq_zero (oncePerUser_of_nodup (by decide))
  obtain ⟨s', hs', hend⟩ := Option.map_eq_some_iff.mp end_doubleClick
  simp only [Prod.mk.injEq] at hend
  obtain ⟨-, hcount, hvote⟩ := hend
  have hne : count s'.rows.committed .question question - count fresh .question question ≠
      votes s'.rows.committed question - votes fresh question := by
    rw [count, hcount, votes_of_reader (by simp [click]) hs', hvote, votes_fresh]
    decide
  exact ⟨hk, hk', fewVotes_fresh, ⟨s, hs, hnone, (votes_kept_iff hk fewVotes_fresh hs).mpr hnone⟩,
    s', hs', mt (votes_kept_iff hk' fewVotes_fresh hs').mpr hne, hne⟩

/-- **A double click.** Neither of two votes of one user finds the other, and the question counts
two votes where there is one. -/
theorem votes_not_kept_by_double_click :
    ∃ s, (casts fresh [click, click]).run database doubleClick = some s ∧
      s.programs.map result? = [some ⟨1, 1⟩, some ⟨2, 1⟩] ∧
      count s.rows.committed .question question - count fresh .question question = 2 ∧
      votes s.rows.committed question - votes fresh question = 1 := by
  obtain ⟨s, hs, hend⟩ := Option.map_eq_some_iff.mp end_doubleClick
  simp only [Prod.mk.injEq] at hend
  obtain ⟨hprograms, hcount, hvote⟩ := hend
  refine ⟨s, hs, hprograms, ?_, ?_⟩
  · rw [count, hcount]
    rfl
  · rw [votes_of_reader (by simp [click]) hs, hvote, votes_fresh]
    rfl

end Forum.Votes
