import Forum.Proofs.Transactions
import Forum.Storage.Content

/-!
# Votes as transactions

The recording of a vote, on the rows of votes and of posts and among other transactions. These rows
are what a vote sees of the tables, where its statements do the same (`Votes.statement_alike`).

* `Votes.database`: what the statements of a vote do to these rows;
* `Votes.Cast`, `Votes.Ballot`: a call, and what it holds when it is committed;
* `Votes.terms`: the terms on which votes are recorded at once;
* **`serves_recordVote`**: a vote has a ballot whenever it is committed.
-/

namespace Forum.Votes

open Sql Storage

/-- The key of a row: of a user's vote on an object, or of a post of a kind. -/
inductive Key where
  | vote (user object : String)
  | post (p : Post) (id : String)
deriving DecidableEq

/-! ## The statements of a vote -/

/-- The statements of a vote. A vote is a row with its direction, a post one with its count. -/
def statement (i : Nat) : Statement → Rows Key Int → Option (Outcome × Rows Key Int)
  | .lockVote user object, t => t.touchThen i (.vote user object) some fun found =>
    { rows := found.toList.map fun v => [("vote", .int .int16 v)]
      affected := found.toList.length }
  | .deleteVote user object, t => t.touchThen i (.vote user object) (fun _ => none) fun found =>
    { affected := found.toList.length }
  | .putVote user object _ v, t =>
    (t.put i (.vote user object) v).map fun t => ({ affected := 1 }, t)
  | .addToVotes p delta id, t =>
    t.touchThen i (.post p id) (fun count => some (count + delta)) fun found =>
      { rows := found.toList.map fun count => [("vote_count", .int64 (count + delta))]
        affected := found.toList.length }
  | _, _ => none

theorem statement_frame {i : Nat} {s : Statement} {t t' : Rows Key Int} {o : Outcome}
    (h : statement i s t = some (o, t')) :
    t'.committed = t.committed ∧ ∀ j, j ≠ i → t'.grip j = t.grip j := by
  unfold statement at h
  split at h
  · obtain ⟨found, ht, -⟩ := Rows.touchThen_eq_some.mp h
    exact Rows.touch_frame ht
  · obtain ⟨found, ht, -⟩ := Rows.touchThen_eq_some.mp h
    exact Rows.touch_frame ht
  · obtain ⟨t₁, ht, he⟩ := Option.map_eq_some_iff.mp h
    cases he
    exact Rows.put_frame ht
  · obtain ⟨found, ht, -⟩ := Rows.touchThen_eq_some.mp h
    exact Rows.touch_frame ht
  · cases h

/-- The rows of votes and of posts. -/
def database : Database Key Int := ⟨statement, statement_frame⟩

section Statements

variable {i : Nat} {t t' : Rows Key Int} {o : Outcome} {user object id : String}

theorem statement_lockVote :
    database.statement i (.lockVote user object) t = some (o, t') ↔
      ∃ found, t.touch i (.vote user object) some = some (found, t') ∧
        { rows := found.toList.map fun v => [("vote", .int .int16 v)]
          affected := found.toList.length } = o := by
  simp only [database, statement, Rows.touchThen_eq_some]

theorem statement_deleteVote :
    database.statement i (.deleteVote user object) t = some (o, t') ↔
      ∃ found, t.touch i (.vote user object) (fun _ => none) = some (found, t') ∧
        { affected := found.toList.length } = o := by
  simp only [database, statement, Rows.touchThen_eq_some]

theorem statement_putVote {kind : ObjectKind} {v : Int} :
    database.statement i (.putVote user object kind v) t = some (o, t') ↔
      t.put i (.vote user object) v = some t' ∧ { affected := 1 } = o := by
  simp only [database, statement, Option.map_eq_some_iff, Prod.mk.injEq]
  constructor
  · rintro ⟨_, hput, ho, rfl⟩
    exact ⟨hput, ho⟩
  · rintro ⟨hput, ho⟩
    exact ⟨t', hput, ho, rfl⟩

theorem statement_addToVotes {p : Post} {delta : Int} :
    database.statement i (.addToVotes p delta id) t = some (o, t') ↔
      ∃ found, t.touch i (.post p id) (fun count => some (count + delta)) = some (found, t') ∧
        { rows := found.toList.map fun count => [("vote_count", .int64 (count + delta))]
          affected := found.toList.length } = o := by
  simp only [database, statement, Rows.touchThen_eq_some]

end Statements

/-! ## One vote -/

/-- A call that records a vote. -/
structure Cast where
  user : String
  object : ObjectInfo
  up : Bool

namespace Cast

/-- The program of a call. -/
def program (c : Cast) : Storage (Except ServiceError VoteResult) :=
  (recordVote c.user c.object c.up).run

/-- The row of the vote of a call. -/
def key (c : Cast) : Key := .vote c.user c.object.objectId

/-- No other one of some calls is a vote of the same user on the same object. -/
def Alone (cs : List Cast) (i : Nat) (c : Cast) : Prop :=
  ∀ j c', cs[j]? = some c' → c'.key = c.key → j = i

end Cast

/-- What a vote holds when it is committed: the row of the vote, which was `base` and is now `vote`,
and the row of the post, which counted `count`. -/
structure Ballot where
  user : String
  object : String
  post : Post
  base : Option Int
  vote : Option Int
  read : Bool
  count : Int

namespace Ballot

/-- A vote as a number; no vote is zero. -/
def value (v : Option Int) : Int := v.getD 0

/-- What the post counts more: the difference to the vote that was read. -/
def delta (b : Ballot) : Int := value b.vote - if b.read then value b.base else 0

/-- The rows that are held. -/
def grips (b : Ballot) : Grips Key Int :=
  Function.update
    (Function.update Grips.nothing (.vote b.user b.object) (some ⟨b.base, b.vote, b.read⟩))
    (.post b.post b.object) (some ⟨some b.count, some (b.count + b.delta), true⟩)

/-- The ballots of a call. -/
def Of (b : Ballot) (c : Cast) : Prop :=
  b.user = c.user ∧ b.object = c.object.objectId ∧ Post.ofKind? c.object.kind = some b.post

theorem grips_vote_of_ne {b : Ballot} {user object : String}
    (h : Key.vote user object ≠ .vote b.user b.object) : b.grips (.vote user object) = none := by
  rw [grips, Function.update_of_ne (by simp), Function.update_of_ne h]
  rfl

end Ballot

/-- The call at a place has a ballot to commit. If no other call is a vote of the same user on the
same object, it takes the place of no vote that it has not read. -/
def HasBallot (cs : List Cast) (i : Nat) (t : Rows Key Int) : Prop :=
  ∃ c, cs[i]? = some c ∧ ∃ b : Ballot, b.Of c ∧ t.grip i = b.grips ∧
    (c.Alone cs i → b.read = false → b.base = none)

/-- What a call relies on: others leave alone what it holds, and its user's vote if no other call is
a vote of the same user on the same object. -/
def Relies (cs : List Cast) (i : Nat) (t t' : Rows Key Int) : Prop :=
  t'.grip i = t.grip i ∧
    ∀ c, cs[i]? = some c → c.Alone cs i → t'.committed c.key = t.committed c.key

/-- The terms on which votes are recorded at once. -/
def terms (cs : List Cast) : Terms Key Int where
  relies := Relies cs
  atCommit := HasBallot cs
  refl _ _ := ⟨rfl, fun _ _ _ => rfl⟩
  trans h h' := ⟨h'.1.trans h.1, fun c hc ha => (h'.2 c hc ha).trans (h.2 c hc ha)⟩
  grip h := h.1
  others := by
    rintro i j t t' hne hgrip hcommitted
    refine ⟨hgrip, fun c hc ha => ?_⟩
    rcases hcommitted with he | ⟨⟨c', hc', b, ⟨huser, hobject, -⟩, hb, -⟩, he⟩
    · rw [he]
    · have hkey : c.key ≠ .vote b.user b.object := by
        intro hk
        exact hne (ha j c' hc' (by rw [hk, huser, hobject]; rfl))
      rw [he, Rows.committed_publish, hb, Cast.key, Ballot.grips_vote_of_ne hkey, Option.elim_none]

variable {i : Nat} {T : Terms Key Int} {t : Rows Key Int}

/-- The row of a vote that is held. -/
def voteGrips (user object : String) (g : Grip Int) : Grips Key Int :=
  Function.update Grips.nothing (.vote user object) (some g)

theorem voteGrips_self {user object : String} {g : Grip Int} :
    voteGrips user object g (.vote user object) = some g := Function.update_self _ _ _

theorem update_voteGrips {user object : String} {g g' : Grip Int} :
    Function.update (voteGrips user object g) (.vote user object) (some g') =
      voteGrips user object g' := Function.update_idem _ _ _

theorem serves_lockVote {user object : String} {post : Option Int → Rows Key Int → Prop}
    (ht : t.grip i = Grips.nothing)
    (missing : ∀ t₁, t₁.grip i = Grips.nothing → t₁.committed (.vote user object) = none →
      post none t₁)
    (found : ∀ v t₁, t₁.grip i = voteGrips user object ⟨some v, some v, true⟩ →
      post (some v) t₁) :
    database.Serves i T (Database.onSuccess post)
      (fetchOptional (.lockVote user object) (scalar (.int .int16))).run t := by
  refine Database.Serves.bind_except (Database.serves_send fun t₁ o t₂ hr hs => ?_)
  have hg : t₁.grip i = Grips.nothing := (T.grip hr).trans ht
  obtain ⟨_, htouch, rfl⟩ := statement_lockVote.mp hs
  rcases Rows.touch_of_not_held (congrFun hg _) htouch with ⟨rfl, he, hc⟩ | ⟨v, rfl, hg'⟩
  · exact missing t₂ (he ▸ hg) (he ▸ hc)
  · rw [hg] at hg'
    exact found v t₂ hg'

/-- What is known of a vote before it is stored: none was found, or the one found is held. -/
def Known (i : Nat) (user object : String) (earlier : Option Int) (t : Rows Key Int) : Prop :=
  (earlier = none ∧ t.grip i = Grips.nothing) ∨
    ∃ v, earlier = some v ∧ t.grip i = voteGrips user object ⟨some v, some v, true⟩

theorem serves_storeVote {user : String} {o : ObjectInfo} {up : Bool} {earlier : Option Int}
    {post : Int → Rows Key Int → Prop} (unread : Option Int → Prop)
    (ht : Known i user o.objectId earlier t)
    (hunread : earlier = none → ∀ t₁, T.relies i t t₁ →
      unread (t₁.committed (.vote user o.objectId)))
    (stored : ∀ base vote read t₁, t₁.grip i = voteGrips user o.objectId ⟨base, vote, read⟩ →
      earlier = (if read then base else none) → (read = false → unread base) →
        post (Ballot.value vote) t₁) :
    database.Serves i T (Database.onSuccess post) (storeVote user o earlier up).run t := by
  unfold storeVote
  split
  · next he =>
    -- the vote of before is taken back
    refine Database.Serves.bind_except (Database.Serves.bind_except
      (Database.serves_send fun t₁ out t₂ hr hs => ?_))
    obtain ⟨_, htouch, rfl⟩ := statement_deleteVote.mp hs
    obtain ⟨hn, -⟩ | ⟨v, hv, hg⟩ := ht
    · rw [he] at hn
      cases hn
    · have hg₁ := (T.grip hr).trans hg
      obtain ⟨-, hg'⟩ := Rows.touch_of_held (by rw [hg₁, voteGrips_self]) rfl htouch
      rw [hg₁, update_voteGrips] at hg'
      exact stored (some v) none true t₂ hg' hv nofun
  · refine Database.Serves.bind_except (Database.Serves.bind_except
      (Database.serves_send fun t₁ out t₂ hr hs => ?_))
    obtain ⟨hput, rfl⟩ := statement_putVote.mp hs
    obtain ⟨hn, hg⟩ | ⟨v, hv, hg⟩ := ht
    · have hg₁ := (T.grip hr).trans hg
      have hg' := Rows.put_of_not_held (congrFun hg₁ _) hput
      rw [hg₁] at hg'
      exact stored _ (some (direction up)) false t₂ hg' hn fun _ => hunread hn t₁ hr
    · have hg₁ := (T.grip hr).trans hg
      have hg' := Rows.put_of_held (by rw [hg₁, voteGrips_self]) hput
      rw [hg₁, update_voteGrips] at hg'
      exact stored (some v) (some (direction up)) true t₂ hg' hv nofun

theorem serves_addToVotes {p : Post} {delta : Int} {id : String} {g : Grips Key Int}
    {post : Int → Rows Key Int → Prop} (ht : t.grip i = g) (hg : g (.post p id) = none)
    (counted : ∀ count t₁, t₁.grip i =
      Function.update g (.post p id) (some ⟨some count, some (count + delta), true⟩) →
        post (count + delta) t₁) :
    database.Serves i T (Database.onSuccess post)
      (fetchOn id (.addToVotes p delta id) (scalar (.int .int64))).run t := by
  refine Database.Serves.bind_except (Database.Serves.bind_except
    (Database.serves_send fun t₁ o t₂ hr hs => ?_))
  have hg₁ : t₁.grip i = g := (T.grip hr).trans ht
  obtain ⟨_, htouch, rfl⟩ := statement_addToVotes.mp hs
  rcases Rows.touch_of_not_held (by rw [hg₁, hg]) htouch with ⟨rfl, -, -⟩ | ⟨count, rfl, hg'⟩
  · trivial
  · rw [hg₁] at hg'
    exact counted count t₂ hg'

variable {cs : List Cast} {c : Cast}

theorem serves_rest {p : Post} {earlier : Option Int} (hc : cs[i]? = some c)
    (hp : Post.ofKind? c.object.kind = some p) (ht : Known i c.user c.object.objectId earlier t)
    (hnone : earlier = none → t.committed c.key = none) :
    database.Serves i (terms cs) (Database.onSuccess fun _ t₁ => ∀ t₂, (terms cs).relies i t₁ t₂ →
        (terms cs).atCommit i t₂) (do
      let vote ← storeVote c.user c.object earlier c.up
      let count ← fetchOn c.object.objectId
        (.addToVotes p (vote - earlier.getD 0) c.object.objectId) (scalar (.int .int64))
      return ⟨count, vote⟩ : Stored VoteResult).run t := by
  have hunread : earlier = none → ∀ t₁, (terms cs).relies i t t₁ →
      c.Alone cs i → t₁.committed c.key = none := fun hn t₁ hr ha =>
    (hr.2 c hc ha).trans (hnone hn)
  refine Database.Serves.bind_except (serves_storeVote (fun v => c.Alone cs i → v = none) ht hunread
    fun base vote read t₁ ht₁ he hu => ?_)
  refine Database.Serves.bind_except (serves_addToVotes ht₁ ?_ fun count t₂ ht₂ => ?_)
  · exact Function.update_of_ne (by simp) _ _
  · refine Database.serves_pure fun t₃ hr => ⟨c, hc,
      ⟨c.user, c.object.objectId, p, base, vote, read, count⟩, ⟨rfl, rfl, hp⟩, ?_,
      fun ha hread => hu hread ha⟩
    have hd : Ballot.value vote - earlier.getD 0 =
        Ballot.value vote - if read then Ballot.value base else 0 := by
      cases read <;> simp [he, Ballot.value]
    rw [hr.1, ht₂, hd]
    rfl

/-- **A vote has a ballot whenever it is committed.** -/
theorem serves_recordVote (hc : cs[i]? = some c) (ht : t.grip i = Grips.nothing) :
    database.Serves i (terms cs) (fun _ => Database.Ended i) c.program t := by
  unfold Cast.program recordVote
  cases hp : Post.ofKind? c.object.kind with
  | none => exact ht
  | some p =>
    refine Database.serves_transaction ht fun t₁ hr => ?_
    refine Database.Serves.bind_except (serves_lockVote (hr.1.trans ht) ?_ ?_)
    · exact fun t₂ ht₂ hnone => serves_rest hc hp (.inl ⟨rfl, ht₂⟩) fun _ => hnone
    · exact fun v t₂ ht₂ => serves_rest hc hp (.inr ⟨v, rfl, ht₂⟩) nofun

end Forum.Votes
