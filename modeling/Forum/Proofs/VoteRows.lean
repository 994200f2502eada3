import Forum.Proofs.Locks
import Forum.Proofs.VoteHistory
import Forum.Proofs.World

/-!
# Votes on the tables

The rows of votes and of posts are what a vote sees of the tables: the direction of each vote and
the count of each post. The statements of a vote do the same to both, so votes that are recorded at
once on the tables make of them what they make of these rows.

* `Rows.touch_eq`, `Rows.put_eq`: statements by what their transaction sees;
* `Votes.Key.row`, `Votes.Key.read`: where a row stands in the tables, and what is read of it;
* `Votes.Shows`: rows of votes and of posts that the tables show;
* **`statement_alike`**: a statement of a vote is answered alike, and goes on to show alike;
* **`run_alike`**: so do votes at once, whatever fails;
* **`balance_tables`**: what votes at once make of the balance of a post in the tables.
-/

namespace Forum

/-! ## Statements by what is seen -/

namespace Rows

variable {K V : Type} {t : Rows K V} {i : Nat} {k : K} {v : V}

theorem holds_cases (t : Rows K V) (i : Nat) (k : K) :
    (t.holds k = none ∧ t.FreeFor i k ∧ t.grip i k = none) ∨
    (∃ h, t.holds k = some h ∧ h.tx = i ∧ t.FreeFor i k ∧
      t.grip i k = some ⟨t.committed k, h.version, h.read⟩) ∨
    ∃ h, t.holds k = some h ∧ h.tx ≠ i ∧ ¬t.FreeFor i k ∧ t.grip i k = none := by
  cases hh : t.holds k with
  | none => exact .inl ⟨rfl, freeFor_of_free hh, by simp [grip, hh]⟩
  | some h =>
    by_cases hi : h.tx = i
    · have hgrip : t.grip i k = some ⟨t.committed k, h.version, h.read⟩ :=
        grip_eq_some.mpr ⟨h, hh, hi, rfl⟩
      exact .inr (.inl ⟨h, rfl, hi, freeFor_of_grip hgrip, hgrip⟩)
    · exact .inr (.inr ⟨h, rfl, hi, fun hf => hi (hf h hh), by simp [grip, hh, hi]⟩)

variable [DecidableEq K]

/-- A match of a row that its transaction sees takes the row, or waits for who holds it. -/
theorem touch_eq {f : V → Option V} : t.touch i k f =
    (t.sees i k).elim (some (none, t)) fun v =>
      if t.FreeFor i k then some (some v, t.take i k (f v)) else none := by
  rcases t.holds_cases i k with ⟨hh, hfree, hgrip⟩ | ⟨h, hh, hi, hfree, hgrip⟩ |
    ⟨h, hh, hi, hfree, hgrip⟩
  · rw [sees_of_not_held hgrip]
    cases hc : t.committed k <;> simp [touch, hh, hc, hfree, take, hgrip]
  · rw [sees_of_held hgrip]
    cases hv : h.version <;> simp [touch, hh, hi, hv, hfree, take, hgrip]
  · rw [sees_of_not_held hgrip]
    cases hc : t.committed k <;> simp [touch, hh, hi, hc, hfree]

theorem alter_eq {m : V → Option V} : t.alter i k m =
    ((t.sees i k).bind m).elim (some (none, t)) fun v =>
      if t.FreeFor i k then some (some v, t.take i k (some v)) else none := by
  unfold alter
  cases (t.sees i k).bind m <;> rfl

theorem put_eq : t.put i k v =
    if t.FreeFor i k then some (t.withHold k ⟨i, some v, (t.grip i k).elim false Grip.read⟩)
    else none := by
  rcases t.holds_cases i k with ⟨hh, hfree, hgrip⟩ | ⟨h, hh, hi, hfree, hgrip⟩ |
    ⟨h, hh, hi, hfree, hgrip⟩
  · simp [put, hh, hfree, hgrip]
  · simp [put, hh, hi, hfree, hgrip]
  · simp [put, hh, hi, hfree]

end Rows

namespace Votes

open Sql Storage

/-! ## What the tables show -/

/-- The key in the tables. -/
def Key.row : Key → Tables.Key
  | vote user object => .vote user object
  | post p id => .post p id

/-- What is read of a row of the tables. -/
def Key.read : Key → Tables.Row → Option Int
  | vote _ _ => Tables.Row.vote?
  | post p _ => Tables.Row.count? p

theorem Key.row_injective : Function.Injective Key.row := by
  intro k k' h
  cases k with
  | vote user object =>
    cases k' with
    | vote user' object' => simpa [row] using h
    | post p id => exact absurd h.symm Tables.Key.post_ne_vote
  | post p id =>
    cases k' with
    | vote user object => exact absurd h Tables.Key.post_ne_vote
    | post p' id' =>
      rw [Key.post.injEq]
      exact Tables.Key.post_inj.mp h

theorem ballots_eq (T : Tables) (k : Key) : ballots T k = (T k.row).bind k.read := by
  cases k <;> rfl

theorem rel_cases {α β : Type} {R : α → β → Prop} {a : Option α} {b : Option β}
    (h : Option.Rel R a b) : (a = none ∧ b = none) ∨ ∃ x y, a = some x ∧ b = some y ∧ R x y := by
  cases h with
  | none => exact .inl ⟨rfl, rfl⟩
  | some h => exact .inr ⟨_, _, rfl, rfl, h⟩

theorem rel_map {α β γ δ : Type} {R : α → β → Prop} {S : γ → δ → Prop} {a : Option α} {b : Option β}
    {f : α → γ} {g : β → δ} (h : Option.Rel R a b) (hfg : ∀ x y, R x y → S (f x) (g y)) :
    Option.Rel S (a.map f) (b.map g) := by
  cases h with
  | none => exact .none
  | some h => exact .some (hfg _ _ h)

/-- A version of a row in the tables, and what it shows. -/
def Key.Shows (k : Key) : Option Tables.Row → Option Int → Prop :=
  Option.Rel fun row n => k.read row = some n

theorem Key.Shows.bind_read {k : Key} {row : Option Tables.Row} {n : Option Int}
    (h : k.Shows row n) : row.bind k.read = n := by
  cases h with
  | none => rfl
  | some h => exact h

/-- The hold of a transaction on a row of the tables, and on the row that is shown. Whether the row
has been read is not compared: a vote that is put looks at nothing, but in the tables it takes its
kind from the row that is there. -/
def Key.Holds (k : Key) : Option (Hold Tables.Row) → Option (Hold Int) → Prop :=
  Option.Rel fun h h' => h.tx = h'.tx ∧ k.Shows h.version h'.version

/-- Tables that show rows of votes and of posts: what is committed, and what each transaction has
made of it. -/
structure Shows (T : Rows Tables.Key Tables.Row) (t : Rows Key Int) : Prop where
  committed : ∀ k : Key, k.Shows (T.committed k.row) (t.committed k)
  holds : ∀ k : Key, k.Holds (T.holds k.row) (t.holds k)

namespace Shows

variable {T : Rows Tables.Key Tables.Row} {t : Rows Key Int} (h : Shows T t) {i : Nat} {k : Key}

include h

theorem ballots_committed : ballots T.committed = t.committed := by
  funext k
  rw [ballots_eq]
  exact (h.committed k).bind_read

theorem sees : k.Shows (T.sees i k.row) (t.sees i k) := by
  unfold Rows.sees Rows.grip
  rcases rel_cases (h.holds k) with ⟨hT, ht⟩ | ⟨hold, hold', hT, ht, htx, hversion⟩
  · simp [hT, ht, h.committed k]
  · by_cases hi : hold'.tx = i
    · simp [hT, ht, htx, hi, hversion]
    · simp [hT, ht, htx, hi, h.committed k]

theorem freeFor : T.FreeFor i k.row ↔ t.FreeFor i k := by
  unfold Rows.FreeFor
  rcases rel_cases (h.holds k) with ⟨hT, ht⟩ | ⟨hold, hold', hT, ht, htx, -⟩
  · simp [hT, ht]
  · simp [hT, ht, htx]

theorem withHold {row : Option Tables.Row} {n : Option Int} {read read' : Bool}
    (hshows : k.Shows row n) :
    Shows (T.withHold k.row ⟨i, row, read⟩) (t.withHold k ⟨i, n, read'⟩) where
  committed := h.committed
  holds k' := by
    simp only [Rows.withHold]
    by_cases hk : k' = k
    · subst hk
      rw [Function.update_self, Function.update_self]
      exact .some ⟨rfl, hshows⟩
    · rw [Function.update_of_ne (Key.row_injective.ne hk), Function.update_of_ne hk]
      exact h.holds k'

theorem otherHolds : k.Holds (T.otherHolds i k.row) (t.otherHolds i k) := by
  unfold Rows.otherHolds
  rcases rel_cases (h.holds k) with ⟨hT, ht⟩ | ⟨hold, hold', hT, ht, htx, hversion⟩
  · rw [hT, ht]
    exact .none
  · rw [hT, ht]
    by_cases hi : hold'.tx = i
    · simpa [Option.filter, htx, hi] using .none
    · simpa [Option.filter, htx, hi] using .some ⟨htx, hversion⟩

theorem release : Shows (T.release i) (t.release i) := ⟨h.committed, fun _ => h.otherHolds⟩

theorem publish : Shows (T.publish i) (t.publish i) := ⟨fun _ => h.sees, fun _ => h.otherHolds⟩

end Shows

/-! ## The statements of a vote -/

section Statements

variable {T : Rows Tables.Key Tables.Row} {t : Rows Key Int} (h : Shows T t) {i : Nat} {k : Key}

include h

theorem rel_alter {m : Tables.Row → Option Tables.Row} {f : Int → Int}
    (hm : ∀ row n, k.read row = some n → ∃ row', m row = some row' ∧ k.read row' = some (f n)) :
    Option.Rel (fun a b => k.Shows a.1 (b.1.map f) ∧ Shows a.2 b.2)
      (T.alter i k.row m) (t.touch i k fun n => some (f n)) := by
  rw [Rows.alter_eq, Rows.touch_eq]
  rcases rel_cases (h.sees (i := i) (k := k)) with ⟨hT, ht⟩ | ⟨row, n, hT, ht, hread⟩
  · rw [hT, ht]
    exact .some ⟨.none, h⟩
  · obtain ⟨row', hrow', hread'⟩ := hm row n hread
    simp only [hT, ht, Option.bind_some, hrow', Option.elim_some, h.freeFor]
    split
    · exact .some ⟨.some hread', h.withHold (.some hread')⟩
    · exact .none

theorem rel_delete : Option.Rel (fun a b => k.Shows a.1 b.1 ∧ Shows a.2 b.2)
    (T.touch i k.row fun _ => none) (t.touch i k fun _ => none) := by
  rw [Rows.touch_eq, Rows.touch_eq]
  rcases rel_cases (h.sees (i := i) (k := k)) with ⟨hT, ht⟩ | ⟨row, n, hT, ht, hread⟩
  · rw [hT, ht]
    exact .some ⟨.none, h⟩
  · simp only [hT, ht, Option.elim_some, h.freeFor]
    split
    · exact .some ⟨.some hread, h.withHold .none⟩
    · exact .none

theorem rel_make {m : Option Tables.Row → Option Tables.Row} {n : Int}
    (hm : ∀ row, ∃ row', m row = some row' ∧ k.read row' = some n) :
    Option.Rel (fun a t' => k.read a.1 = some n ∧ Shows a.2 t')
      (T.make i k.row m) (t.put i k n) := by
  obtain ⟨row', hrow', hread⟩ := hm (T.sees i k.row)
  rw [Rows.put_eq, Rows.make, hrow']
  simp only [h.freeFor]
  split
  · exact .some ⟨hread, h.withHold (.some hread)⟩
  · exact .none

end Statements

/-- An answer and the rows after it, in the tables and as they are shown. -/
structure Alike {α : Type} (a : α × Rows Tables.Key Tables.Row) (b : α × Rows Key Int) : Prop where
  answer : a.1 = b.1
  rows : Shows a.2 b.2

/-- The statements of a vote. -/
def IsVoting : Statement → Prop
  | .lockVote _ _ | .deleteVote _ _ | .putVote _ _ _ _ | .addToVotes _ _ _ => True
  | _ => False

variable {ch : Tables.Choices} {T : Rows Tables.Key Tables.Row} {t : Rows Key Int} {i : Nat}

section Statements

variable {s : Statement} {k : Key} (h : Shows T t)

include h

/-- A statement that changes a row by its key. -/
theorem alike_of_alter {m : Tables.Row → Option Tables.Row} {f : Int → Int}
    {answer : Option Int → Outcome} (hop : Tables.rowOp (ch.number i) s = some (.alter k.row m))
    (hs : statement i s t = t.touchThen i k (fun n => some (f n)) answer)
    (hm : ∀ row n, k.read row = some n → ∃ row', m row = some row' ∧ k.read row' = some (f n))
    (missed : Tables.outcome (ch.number i) s [] 0 = answer none)
    (found : ∀ row n, k.read row = some (f n) →
      Tables.outcome (ch.number i) s [row] 1 = answer (some n)) :
    Option.Rel Alike (Tables.statement ch i s T) (statement i s t) := by
  rw [Tables.statement, hop, Option.bind_some, Tables.RowOp.perform, Option.map_map, hs,
    Rows.touchThen]
  refine rel_map (rel_alter (i := i) h hm) ?_
  rintro ⟨row?, T'⟩ ⟨n?, t'⟩ ⟨hfound, hrows⟩
  refine ⟨?_, hrows⟩
  cases n? with
  | none =>
    cases hfound
    exact missed
  | some n =>
    cases hfound with
    | some hread => exact found _ n hread

theorem lockVote_alike {user object : String} :
    Option.Rel Alike (Tables.statement ch i (.lockVote user object) T)
      (statement i (.lockVote user object) t) := by
  refine alike_of_alter (k := .vote user object) (f := fun n => n) h rfl (by rw [statement])
    ?_ rfl ?_
  · intro row n hread
    have hvote : row.vote? = some n := hread
    exact ⟨row, by rw [hvote, Option.map_some], hread⟩
  · intro row n hread
    have hvote : row.vote? = some n := hread
    simp [Tables.outcome, Tables.returned, hvote]

theorem deleteVote_alike {user object : String} :
    Option.Rel Alike (Tables.statement ch i (.deleteVote user object) T)
      (statement i (.deleteVote user object) t) := by
  simp only [Tables.statement, Tables.rowOp, Option.bind_some, Tables.RowOp.perform,
    Option.map_map, statement, Rows.touchThen]
  refine rel_map (rel_delete (i := i) (k := .vote user object) h) ?_
  rintro ⟨row?, T'⟩ ⟨n?, t'⟩ ⟨hfound, hrows⟩
  refine ⟨?_, hrows⟩
  cases hfound <;> rfl

theorem putVote_alike {user object : String} {kind : ObjectKind} {v : Int} :
    Option.Rel Alike (Tables.statement ch i (.putVote user object kind v) T)
      (statement i (.putVote user object kind v) t) := by
  simp only [Tables.statement, Tables.rowOp, Option.bind_some, Tables.RowOp.perform, statement]
  rw [if_pos (List.forall_mem_nil _), Option.map_map]
  refine rel_map (rel_make (i := i) (k := .vote user object) h fun row => ?_) ?_
  · split
    · exact ⟨_, rfl, rfl⟩
    · exact ⟨_, rfl, rfl⟩
  · rintro ⟨row, T'⟩ t' ⟨-, hrows⟩
    exact ⟨rfl, hrows⟩

theorem addToVotes_alike {p : Post} {delta : Int} {id : String} :
    Option.Rel Alike (Tables.statement ch i (.addToVotes p delta id) T)
      (statement i (.addToVotes p delta id) t) := by
  refine alike_of_alter (k := .post p id) (f := (· + delta)) h rfl (by rw [statement])
    ?_ rfl ?_
  · intro row n hread
    cases hadd : Tables.Row.addVotes delta p row with
    | none =>
      have hnone := Tables.Row.addVotes_eq_none.mp hadd
      rw [show row.count? p = some n from hread] at hnone
      cases hnone
    | some row' =>
      obtain ⟨n', hn, hn'⟩ := Tables.Row.count?_addVotes hadd
      obtain rfl := Option.some.inj (hn.symm.trans hread)
      exact ⟨row', rfl, hn'⟩
  · intro row n hread
    have hcount : row.count? p = some (n + delta) := hread
    simp [Tables.outcome, Tables.returned, hcount]

/-- **A statement of a vote** is answered alike, and what the tables show after it is what becomes
of the rows that they show. -/
theorem statement_alike (hs : IsVoting s) :
    Option.Rel Alike (Tables.statement ch i s T) (statement i s t) := by
  cases s with
  | lockVote user object => exact lockVote_alike h
  | deleteVote user object => exact deleteVote_alike h
  | putVote user object kind v => exact putVote_alike h
  | addToVotes p delta id => exact addToVotes_alike h
  | _ => cases hs

end Statements

/-! ## Votes at once -/

/-- The operations of a vote. -/
def MayAsk : StorageOp → Prop
  | .run s => IsVoting s
  | _ => True

section Asks

variable {α β : Type} {s : Statement}

theorem asks_map {p : Storage α} {f : α → β} (h : p.Asks MayAsk) : (f <$> p).Asks MayAsk :=
  h.bind fun _ => trivial

theorem asks_send (hs : IsVoting s) : (send s).run.Asks MayAsk := ⟨hs, fun _ => trivial⟩

theorem asks_execute (hs : IsVoting s) : (execute s).run.Asks MayAsk := by
  rw [run_execute]
  exact asks_map (asks_send hs)

theorem asks_transaction {body : Stored α} (h : body.run.Asks MayAsk) :
    (transaction body).run.Asks MayAsk := by
  have hask : ∀ op, MayAsk op → (Storage.ask op).Asks MayAsk := fun _ hop => ⟨hop, fun _ => trivial⟩
  refine (hask .openTransaction trivial).bind fun opened => ?_
  cases opened with
  | error e => trivial
  | ok _ =>
    refine h.bind fun r => ?_
    cases r with
    | error e => exact (hask .rollback trivial).bind fun _ => trivial
    | ok a =>
      refine (hask .commit trivial).bind fun committed => ?_
      cases committed with
      | ok _ => trivial
      | error e => exact (hask .rollback trivial).bind fun _ => trivial

theorem asks_storeVote {user : String} {o : ObjectInfo} {earlier : Option Int} {up : Bool} :
    (storeVote user o earlier up).run.Asks MayAsk := by
  have hdelete : IsVoting (.deleteVote user o.objectId) := trivial
  have hput : IsVoting (.putVote user o.objectId o.kind (direction up)) := trivial
  unfold storeVote
  split
  · exact (asks_execute hdelete).bind_except fun _ => trivial
  · exact (asks_execute hput).bind_except fun _ => trivial

end Asks

theorem asks_program (c : Cast) : c.program.Asks MayAsk := by
  unfold Cast.program recordVote
  cases Post.ofKind? c.object.kind with
  | none => trivial
  | some p =>
    refine asks_transaction (Program.Asks.bind_except ?_ fun earlier =>
      asks_storeVote.bind_except fun vote => Program.Asks.bind_except ?_ fun _ => trivial)
    · rw [run_fetchOptional]
      exact asks_map (asks_send trivial)
    · rw [run_fetchOn]
      exact asks_map (asks_send trivial)

theorem perform_alike (h : Shows T t) {op : StorageOp} (hop : MayAsk op) (turn : Turn) :
    Option.Rel Alike ((Tables.database ch).perform i op turn T) (database.perform i op turn t) := by
  cases op with
  | openTransaction =>
    cases turn with
    | lost e => exact .none
    | _ => exact .some ⟨rfl, h⟩
  | commit =>
    cases turn with
    | fails e => exact .some ⟨rfl, h.release⟩
    | _ => exact .some ⟨rfl, h.publish⟩
  | rollback =>
    cases turn with
    | done => exact .some ⟨rfl, h.release⟩
    | _ => exact .none
  | run s =>
    cases turn with
    | done =>
      exact rel_map (statement_alike h hop) fun _ _ hab =>
        ⟨congrArg Except.ok hab.answer, hab.rows⟩
    | fails e => exact .some ⟨rfl, h⟩
    | lost e => exact .none
  | cache c => cases turn <;> exact .none

/-- The same programs on tables and on the rows that they show. -/
structure Abreast {α : Type} (S : System Tables.Key Tables.Row α) (s : System Key Int α) :
    Prop where
  rows : Shows S.rows s.rows
  programs : S.programs = s.programs
  asks : ∀ p ∈ s.programs, Program.Asks MayAsk p

variable (ch) in
theorem step_alike {α : Type} {S : System Tables.Key Tables.Row α} {s : System Key Int α}
    (h : Abreast S s) (l : Nat × Turn) :
    Option.Rel Abreast (S.step (Tables.database ch) l) (s.step database l) := by
  unfold System.step
  rw [h.programs]
  cases hp : s.programs[l.1]? with
  | none => exact .none
  | some p =>
    have hasks := h.asks p (List.mem_of_getElem? hp)
    cases p with
    | done a => exact .none
    | ask op next =>
      refine rel_map (perform_alike h.rows hasks.1 l.2) ?_
      rintro ⟨r, T'⟩ ⟨r', t'⟩ ⟨hr, hrows⟩
      obtain rfl : r = r' := hr
      refine ⟨hrows, rfl, fun p' hp' => ?_⟩
      rcases List.mem_or_eq_of_mem_set hp' with hmem | rfl
      · exact h.asks p' hmem
      · exact hasks.2 r

variable (ch) in
/-- **Votes at once** on tables and on the rows that they show: both runs come to an end, or none
does. -/
theorem run_alike {α : Type} {S : System Tables.Key Tables.Row α} {s : System Key Int α}
    (h : Abreast S s) (ls : List (Nat × Turn)) :
    Option.Rel Abreast (S.run (Tables.database ch) ls) (s.run database ls) := by
  induction ls generalizing S s with
  | nil => exact .some h
  | cons l ls ih =>
    rw [System.run, System.run, List.foldlM_cons, List.foldlM_cons]
    rcases rel_cases (step_alike ch h l) with ⟨hS, hs⟩ | ⟨S', s', hS, hs, h'⟩
    · rw [hS, hs]
      exact .none
    · rw [hS, hs]
      exact ih h'

/-- Each row of a vote or a post is one. -/
def WellKeyed (T : Tables) : Prop := ∀ (k : Key) row, T k.row = some row → k.read row ≠ none

/-- Calls that record votes, at once and on tables that nobody holds yet. -/
def castsOn (T : Tables) (cs : List Cast) :
    System Tables.Key Tables.Row (Except ServiceError VoteResult) :=
  ⟨⟨T, fun _ => none⟩, cs.map Cast.program⟩

variable {T : Tables} {cs : List Cast} {turns : List (Nat × Turn)} {p : Post} {id : String}
  {S : System Tables.Key Tables.Row (Except ServiceError VoteResult)}

theorem abreast_casts (hT : WellKeyed T) : Abreast (castsOn T cs) (casts (ballots T) cs) where
  rows.committed k := by
    change Option.Rel _ (T k.row) (ballots T k)
    rw [ballots_eq]
    cases hrow : T k.row with
    | none => exact .none
    | some row =>
      obtain ⟨n, hn⟩ := Option.ne_none_iff_exists'.mp (hT k row hrow)
      rw [Option.bind_some, hn]
      exact .some hn
  rows.holds _ := .none
  programs := rfl
  asks q hq := by
    obtain ⟨c, -, rfl⟩ := List.mem_map.mp hq
    exact asks_program c

/-- **What votes at once make of the balance of a post in the tables**: they move it by the votes
that were overwritten unread. -/
theorem balance_tables (hT : WellKeyed T) (hk : OfKind cs p id) (hf : FewVotes id (ballots T))
    (h : (castsOn T cs).run (Tables.database ch) turns = some S) :
    balance p id (ballots S.rows.committed) =
      balance p id (ballots T) + overwrittenIn (ballots T) cs turns id := by
  rcases rel_cases (run_alike ch (abreast_casts hT) turns) with
    ⟨hnone, -⟩ | ⟨S', s, hS, hs, habreast⟩
  · rw [h] at hnone
    cases hnone
  · obtain rfl : S = S' := Option.some.inj (h.symm.trans hS)
    rw [habreast.rows.ballots_committed]
    exact balance_run hk hf hs

/-- Where no user has more than one call on a post, votes at once leave its balance alone. -/
theorem balance_tables_of_oncePerUser (hT : WellKeyed T) (hk : OfKind cs p id)
    (hf : FewVotes id (ballots T)) (ho : OncePerUser cs id)
    (h : (castsOn T cs).run (Tables.database ch) turns = some S) :
    balance p id (ballots S.rows.committed) = balance p id (ballots T) := by
  rw [balance_tables hT hk hf h, overwrittenIn_eq_zero ho, add_zero]

end Votes

end Forum
