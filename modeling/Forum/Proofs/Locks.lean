import Forum.Proofs.Tables
import Forum.Proofs.Transactions
import Forum.Storage.Content

/-!
# Statements under locks

What the statements do to the tables while other transactions use them. A statement takes the rows
that match as its transaction sees them, and waits for those that another one holds.

A statement that changes all rows that match comes upon rows as they were when it began, one after
another, and looks at each again when it has got hold of it. Which rows it comes upon is left open.

* `Rows.sees`, `Rows.take`: what a transaction sees of a row, and its hold on it;
* `Rows.alter`, `Rows.make`, `Rows.sweep`: statements on rows that match;
* `Grips.hold`, `Grips.onto`: rows that are held, and what is committed with them;
* `Tables.Choices`, `Tables.database`: the tables as a database;
* `Tables.terms`: transactions that leave alone what others hold, and the questions and badges that
  there are;
* **`serves_alter`**, **`serves_make`**, **`serves_sweep`**: one rule for each kind of statement.
-/

namespace Forum

/-! ## Rows that are held -/

namespace Grips

variable {K V : Type} {g : Grips K V} {k : K} {base version : Option V}

/-- What is committed with the versions that are held. -/
def onto (g : Grips K V) (c : K → Option V) : K → Option V :=
  fun k => (g k).elim (c k) Grip.version

@[simp] theorem nothing_onto {c : K → Option V} : (nothing : Grips K V).onto c = c := rfl

variable [DecidableEq K]

/-- One more row that is held, after a look at the committed version. -/
def hold (g : Grips K V) (k : K) (base version : Option V) : Grips K V :=
  Function.update g k (some ⟨base, version, true⟩)

@[simp] theorem hold_self : g.hold k base version k = some ⟨base, version, true⟩ :=
  Function.update_self ..

theorem hold_of_ne {k' : K} (h : k' ≠ k) : g.hold k base version k' = g k' :=
  Function.update_of_ne h ..

@[simp] theorem hold_onto {c : K → Option V} :
    (g.hold k base version).onto c = Function.update (g.onto c) k version := by
  funext k'
  by_cases h : k' = k
  · subst h
    simp [onto]
  · simp [onto, hold_of_ne h, h]

end Grips

namespace Rows

variable {K V : Type} {t t' : Rows K V} {i j : Nat} {k : K} {v : V}

theorem committed_publish_eq_onto : (t.publish i).committed = (t.grip i).onto t.committed := rfl

theorem committed_eq_base {g : Grip V} (h : t.grip i k = some g) : t.committed k = g.base := by
  obtain ⟨_, -, -, rfl⟩ := grip_eq_some.mp h
  rfl

/-- The version of a row that a transaction sees: its own, or else the committed one. -/
def sees (t : Rows K V) (i : Nat) (k : K) : Option V :=
  (t.grip i k).elim (t.committed k) Grip.version

theorem sees_of_not_held (h : t.grip i k = none) : t.sees i k = t.committed k := by
  rw [sees, h, Option.elim_none]

theorem sees_of_held {g : Grip V} (h : t.grip i k = some g) : t.sees i k = g.version := by
  rw [sees, h, Option.elim_some]

instance : Decidable (t.FreeFor i k) :=
  match h : t.holds k with
  | none => isTrue (freeFor_of_free h)
  | some hold => decidable_of_iff (hold.tx = i) (by simp [FreeFor, h])

variable [DecidableEq K]

/-- The hold of a transaction on a row, with a new version of it. -/
def take (t : Rows K V) (i : Nat) (k : K) (version : Option V) : Rows K V :=
  t.withHold k ⟨i, version, (t.grip i k).elim true Grip.read⟩

theorem grip_take {version : Option V} : (t.take i k version).grip i =
    Function.update (t.grip i) k
      (some ⟨t.committed k, version, (t.grip i k).elim true Grip.read⟩) := by
  rw [take, grip_withHold, if_pos rfl]

theorem grip_take_of_not_held {version : Option V} (h : t.grip i k = none) :
    (t.take i k version).grip i = (t.grip i).hold k (t.committed k) version := by
  rw [grip_take, h, Option.elim_none, Grips.hold]

theorem committed_of_hold {g : Grips K V} {base version : Option V}
    (h : t.grip i = g.hold k base version) : t.committed k = base :=
  committed_eq_base (by rw [h, Grips.hold_self])

theorem committed_of_hold_of_ne {g : Grips K V} {k' : K} {base version base' version' : Option V}
    (h : t.grip i = (g.hold k base version).hold k' base' version') (hk : k ≠ k') :
    t.committed k = base :=
  committed_eq_base (by rw [h, Grips.hold_of_ne hk, Grips.hold_self])

theorem take_frame (version : Option V) (h : t.FreeFor i k) :
    (t.take i k version).committed = t.committed ∧
      ∀ j, j ≠ i → (t.take i k version).grip j = t.grip j :=
  withHold_frame _ _ h

/-- A statement that changes the row of a key if there is one that matches. -/
def alter (t : Rows K V) (i : Nat) (k : K) (m : V → Option V) : Option (Option V × Rows K V) :=
  match (t.sees i k).bind m with
  | none => some (none, t)
  | some v => if t.FreeFor i k then some (some v, t.take i k (some v)) else none

/-- A statement that makes the row of a key from what there is, unless it is refused. -/
def make (t : Rows K V) (i : Nat) (k : K) (m : Option V → Option V) : Option (V × Rows K V) :=
  if t.FreeFor i k then (m (t.sees i k)).map fun v => (v, t.take i k (some v)) else none

/-- A statement that changes all rows that match among those it comes upon, and counts them. -/
def sweep (t : Rows K V) (i : Nat) (m : K → V → Option V) : List K → Option (Nat × Rows K V)
  | [] => some (0, t)
  | k :: ks => do
    let (found, t) ← t.alter i k (m k)
    let (n, t) ← t.sweep i m ks
    return (found.toList.length + n, t)

theorem alter_cases {m : V → Option V} {found : Option V} (h : t.alter i k m = some (found, t')) :
    (found = none ∧ (t.sees i k).bind m = none ∧ t' = t) ∨
      ∃ v, found = some v ∧ (t.sees i k).bind m = some v ∧ t.FreeFor i k ∧
        t' = t.take i k (some v) := by
  unfold alter at h
  split at h
  · next hm =>
    cases h
    exact .inl ⟨rfl, hm, rfl⟩
  · next v hm =>
    split at h
    · next hf =>
      cases h
      exact .inr ⟨v, rfl, hm, hf, rfl⟩
    · cases h

theorem make_eq_some {m : Option V → Option V} :
    t.make i k m = some (v, t') ↔
      t.FreeFor i k ∧ m (t.sees i k) = some v ∧ t' = t.take i k (some v) := by
  unfold make
  split
  · next hf =>
    simp only [Option.map_eq_some_iff, Prod.mk.injEq]
    constructor
    · rintro ⟨w, hw, rfl, rfl⟩
      exact ⟨hf, hw, rfl⟩
    · rintro ⟨-, hw, rfl⟩
      exact ⟨v, hw, rfl, rfl⟩
  · next hf =>
    simp [hf]

theorem alter_frame {m : V → Option V} {found : Option V} (h : t.alter i k m = some (found, t')) :
    t'.committed = t.committed ∧ ∀ j, j ≠ i → t'.grip j = t.grip j := by
  rcases alter_cases h with ⟨-, -, rfl⟩ | ⟨v, -, -, hf, rfl⟩
  · exact ⟨rfl, fun _ _ => rfl⟩
  · exact take_frame _ hf

theorem make_frame {m : Option V → Option V} (h : t.make i k m = some (v, t')) :
    t'.committed = t.committed ∧ ∀ j, j ≠ i → t'.grip j = t.grip j := by
  obtain ⟨hf, -, rfl⟩ := make_eq_some.mp h
  exact take_frame _ hf

/-- **A sweep** keeps what each of its changes keeps. -/
theorem sweep_induction {m : K → V → Option V} {P : Rows K V → Prop}
    (step : ∀ t k v, P t → (t.sees i k).bind (m k) = some v → t.FreeFor i k →
      P (t.take i k (some v)))
    {ks : List K} {n : Nat} (h0 : P t) (h : t.sweep i m ks = some (n, t')) : P t' := by
  induction ks generalizing t n with
  | nil =>
    cases h
    exact h0
  | cons k ks ih =>
    obtain ⟨⟨found, t₁⟩, h₁, h⟩ := Option.bind_eq_some_iff.mp h
    obtain ⟨⟨n₂, t₂⟩, h₂, h⟩ := Option.bind_eq_some_iff.mp h
    cases h
    refine ih ?_ h₂
    rcases alter_cases h₁ with ⟨-, -, rfl⟩ | ⟨v, -, hm, hf, rfl⟩
    · exact h0
    · exact step t k v h0 hm hf

theorem sweep_frame {m : K → V → Option V} {ks : List K} {n : Nat}
    (h : t.sweep i m ks = some (n, t')) :
    t'.committed = t.committed ∧ ∀ j, j ≠ i → t'.grip j = t.grip j := by
  refine sweep_induction
    (P := fun t₁ => t₁.committed = t.committed ∧ ∀ j, j ≠ i → t₁.grip j = t.grip j)
    (fun t₁ k v h₁ _ hf => ?_) ⟨rfl, fun _ _ => rfl⟩ h
  obtain ⟨hc, hg⟩ := take_frame (some v) hf
  exact ⟨hc.trans h₁.1, fun j hj => (hg j hj).trans (h₁.2 j hj)⟩

end Rows

/-! ## The tables as a database -/

namespace Tables

open Sql Storage

/-- What is left open: the rows that the sweep of a transaction comes upon, in order, and the number
that a sequence gives it. -/
structure Choices where
  scan : Nat → List Key
  number : Nat → Int

/-- What a statement does to rows that other transactions use too: the rows that it has found or
made, how many there are, and the rows after it; or none if it has to wait or is refused. -/
def RowOp.perform (i : Nat) (scan : List Key) (t : Rows Key Row) :
    RowOp → Option ((List Row × Nat) × Rows Key Row)
  | .nothing => some (([], 0), t)
  | .alter k m => (t.alter i k m).map fun (found, t) => ((found.toList, found.toList.length), t)
  | .delete k => (t.touch i k fun _ => none).map fun (found, t) => (([], found.toList.length), t)
  | .make k needs m =>
    if ∀ k ∈ needs, t.sees i k ≠ none then (t.make i k m).map fun (v, t) => (([v], 1), t) else none
  | .sweep m => (t.sweep i m scan).map fun (n, t) => (([], n), t)

theorem RowOp.perform_frame {i : Nat} {scan : List Key} {op : RowOp} {t t' : Rows Key Row}
    {r : List Row × Nat} (h : op.perform i scan t = some (r, t')) :
    t'.committed = t.committed ∧ ∀ j, j ≠ i → t'.grip j = t.grip j := by
  cases op with
  | nothing =>
    cases h
    exact ⟨rfl, fun _ _ => rfl⟩
  | alter k m =>
    obtain ⟨⟨found, t₁⟩, h₁, he⟩ := Option.map_eq_some_iff.mp h
    cases he
    exact Rows.alter_frame h₁
  | delete k =>
    obtain ⟨⟨found, t₁⟩, h₁, he⟩ := Option.map_eq_some_iff.mp h
    cases he
    exact Rows.touch_frame h₁
  | make k needs m =>
    rw [perform] at h
    split at h
    · obtain ⟨⟨v, t₁⟩, h₁, he⟩ := Option.map_eq_some_iff.mp h
      cases he
      exact Rows.make_frame h₁
    · cases h
  | sweep m =>
    obtain ⟨⟨n, t₁⟩, h₁, he⟩ := Option.map_eq_some_iff.mp h
    cases he
    exact Rows.sweep_frame h₁

variable (ch : Choices)

/-- A statement of a transaction. -/
def statement (i : Nat) (s : Statement) (t : Rows Key Row) : Option (Outcome × Rows Key Row) :=
  (rowOp (ch.number i) s).bind fun op => (op.perform i (ch.scan i) t).map fun ((found, n), t) =>
    (outcome (ch.number i) s found n, t)

theorem statement_eq_some {i : Nat} {s : Statement} {t t' : Rows Key Row} {o : Outcome} :
    statement ch i s t = some (o, t') ↔ ∃ op found n, rowOp (ch.number i) s = some op ∧
      op.perform i (ch.scan i) t = some ((found, n), t') ∧ outcome (ch.number i) s found n = o := by
  simp only [statement, Option.bind_eq_some_iff, Option.map_eq_some_iff, Prod.mk.injEq,
    Prod.exists]
  constructor
  · rintro ⟨op, hop, found, n, _, h, ho, rfl⟩
    exact ⟨op, found, n, hop, h, ho⟩
  · rintro ⟨op, found, n, hop, h, ho⟩
    exact ⟨op, hop, found, n, t', h, ho, rfl⟩

/-- The tables, under the statements of transactions. -/
def database : Database Key Row where
  statement := statement ch
  frame h := by
    obtain ⟨op, found, n, -, h, -⟩ := (statement_eq_some ch).mp h
    exact op.perform_frame h

/-! ## Rules for statements -/

section Rules

variable {ch} {i : Nat} {T : Terms Key Row} {t : Rows Key Row} {s : Statement}
  {post : Outcome → Rows Key Row → Prop}

theorem serves_statement {op : RowOp} (hop : rowOp (ch.number i) s = some op)
    (h : ∀ t₁ found n t₂, T.relies i t t₁ → op.perform i (ch.scan i) t₁ = some ((found, n), t₂) →
      post (outcome (ch.number i) s found n) t₂) :
    (database ch).Serves i T (Database.onSuccess post) (send s).run t := by
  refine Database.serves_send fun t₁ o t₂ hr hs => ?_
  obtain ⟨op', found, n, hop', hp, rfl⟩ := (statement_eq_some ch).mp hs
  rw [hop, Option.some.injEq] at hop'
  subst hop'
  exact h t₁ found n t₂ hr hp

/-- **A statement on a row that is found by its key**: the row is not there or does not match, or it
is changed and held. -/
theorem serves_alter {k : Key} {m : Row → Option Row}
    (hop : rowOp (ch.number i) s = some (.alter k m))
    (missed : ∀ t₁, T.relies i t t₁ → (t₁.sees i k).bind m = none →
      post (outcome (ch.number i) s [] 0) t₁)
    (altered : ∀ t₁ v, T.relies i t t₁ → (t₁.sees i k).bind m = some v →
      post (outcome (ch.number i) s [v] 1) (t₁.take i k (some v))) :
    (database ch).Serves i T (Database.onSuccess post) (send s).run t := by
  refine serves_statement hop fun t₁ found n t₂ hr hp => ?_
  obtain ⟨⟨found, t₂⟩, ha, he⟩ := Option.map_eq_some_iff.mp hp
  cases he
  rcases Rows.alter_cases ha with ⟨rfl, hm, rfl⟩ | ⟨v, rfl, hm, -, rfl⟩
  · exact missed _ hr hm
  · exact altered t₁ v hr hm

/-- **A statement that makes a row.** -/
theorem serves_make {k : Key} {needs : List Key} {m : Option Row → Option Row}
    (hop : rowOp (ch.number i) s = some (.make k needs m))
    (made : ∀ t₁ v, T.relies i t t₁ → m (t₁.sees i k) = some v →
      post (outcome (ch.number i) s [v] 1) (t₁.take i k (some v))) :
    (database ch).Serves i T (Database.onSuccess post) (send s).run t := by
  refine serves_statement hop fun t₁ found n t₂ hr hp => ?_
  rw [RowOp.perform] at hp
  split at hp
  · obtain ⟨⟨v, t₂⟩, hm, he⟩ := Option.map_eq_some_iff.mp hp
    cases he
    obtain ⟨-, hv, rfl⟩ := Rows.make_eq_some.mp hm
    exact made t₁ v hr hv
  · cases hp

/-- **A statement on all rows that match** keeps what each of its changes keeps. -/
theorem serves_sweep {m : Key → Row → Option Row} {P : Rows Key Row → Prop}
    (hop : rowOp (ch.number i) s = some (.sweep m))
    (step : ∀ t k v, P t → (t.sees i k).bind (m k) = some v → P (t.take i k (some v)))
    (start : ∀ t₁, T.relies i t t₁ → P t₁)
    (swept : ∀ n t₁, P t₁ → post (outcome (ch.number i) s [] n) t₁) :
    (database ch).Serves i T (Database.onSuccess post) (send s).run t := by
  refine serves_statement hop fun t₁ found n t₂ hr hp => ?_
  obtain ⟨⟨n, t₂⟩, hs, he⟩ := Option.map_eq_some_iff.mp hp
  cases he
  exact swept n t₂ (Rows.sweep_induction (fun t k v h hm _ => step t k v h hm) (start t₁ hr) hs)

theorem serves_nextId {p : Post} {post : String → Rows Key Row → Prop}
    (h : ∀ t₁, T.relies i t t₁ → post (p.kind.objectId (ch.number i)) t₁) :
    (database ch).Serves i T (Database.onSuccess post) (nextId p).run t := by
  refine Database.Serves.bind_except (Database.serves_fetchOne
    (serves_statement rfl fun t₁ found n t₂ hr hp r rest a hrows ha => ?_))
  cases hp
  cases hrows
  cases ha
  exact h t₁ hr

theorem serves_alter_new {k : Key} {m : Row → Option Row} {g : Grips Key Row}
    (hop : rowOp (ch.number i) s = some (.alter k m)) (ht : t.grip i = g) (hk : g k = none)
    (missed : ∀ t₁, T.relies i t t₁ → t₁.grip i = g → (t₁.committed k).bind m = none →
      post (outcome (ch.number i) s [] 0) t₁)
    (altered : ∀ t₁ base v, t₁.grip i = g.hold k base (some v) → base.bind m = some v →
      post (outcome (ch.number i) s [v] 1) t₁) :
    (database ch).Serves i T (Database.onSuccess post) (send s).run t := by
  have hsees : ∀ t₁, T.relies i t t₁ → t₁.grip i = g ∧ t₁.sees i k = t₁.committed k := by
    intro t₁ hr
    have hg : t₁.grip i = g := (T.grip hr).trans ht
    exact ⟨hg, Rows.sees_of_not_held (by rw [hg, hk])⟩
  refine serves_alter hop (fun t₁ hr hm => ?_) fun t₁ v hr hm => ?_
  · obtain ⟨hg, hs⟩ := hsees t₁ hr
    exact missed t₁ hr hg (hs ▸ hm)
  · obtain ⟨hg, hs⟩ := hsees t₁ hr
    have htake : (t₁.take i k (some v)).grip i = g.hold k (t₁.committed k) (some v) := by
      rw [Rows.grip_take_of_not_held (by rw [hg, hk]), hg]
    exact altered _ _ v htake (hs ▸ hm)

theorem serves_insert {k : Key} {needs : List Key} {v : Row} {g : Grips Key Row}
    (hop : rowOp (ch.number i) s = some (.insert k needs v)) (ht : t.grip i = g) (hk : g k = none)
    (made : ∀ t₁, t₁.grip i = g.hold k none (some v) →
      post (outcome (ch.number i) s [v] 1) t₁) :
    (database ch).Serves i T (Database.onSuccess post) (send s).run t := by
  refine serves_make hop fun t₁ w hr hm => ?_
  have hg : t₁.grip i = g := (T.grip hr).trans ht
  have hg' : t₁.grip i k = none := by rw [hg, hk]
  rw [Rows.sees_of_not_held hg'] at hm
  cases hc : t₁.committed k with
  | some w' => simp [hc] at hm
  | none =>
    rw [hc, Option.some.injEq] at hm
    subst hm
    exact made _ (by rw [Rows.grip_take_of_not_held hg', hg, hc])

end Rules

/-! ## Terms -/

/-- Is this the row of a question or a badge? Of other keys nothing is asked. -/
def standing : Key → Option Row → Bool
  | .question _, v => (v.bind Row.question?).isSome
  | .badge _, v => (v.bind Row.badge?).isSome
  | _, _ => true

/-- The questions and badges that there are. -/
def stands (T : Tables) (k : Key) : Bool := standing k (T k)

theorem stands_update {T : Tables} {k : Key} {v : Option Row} (h : standing k v = stands T k) :
    stands (Function.update T k v) = stands T := by
  funext k'
  by_cases hk : k' = k
  · subst hk
    rw [stands, Function.update_self, h]
  · rw [stands, Function.update_of_ne hk, stands]

theorem stands_alter {T : Tables} {k : Key} {m : Row → Option Row}
    (h : ∀ w, (T k).bind m = some w → standing k (some w) = stands T k) :
    stands (alter T k m) = stands T := by
  cases hm : (T k).bind m with
  | none => rw [alter_of_none hm]
  | some w => rw [alter_of_some hm, stands_update (h w hm)]

theorem stands_alter_question {T : Tables} {id : String} {f : QuestionRow → Option QuestionRow} :
    stands (alter T (.question id) (Row.onQuestion f)) = stands T := by
  refine stands_alter fun w hw => ?_
  obtain ⟨r, r', hr, -, rfl⟩ := Row.bind_onQuestion_eq_some.mp hw
  rw [stands, hr]
  rfl

theorem bind_onQuestion_eq_none_iff {T : Tables} {id : String} {f : QuestionRow → QuestionRow} :
    (T (.question id)).bind (Row.onQuestion fun r => some (f r)) = none ↔
      stands T (.question id) = false := by
  rw [Row.bind_onQuestion, stands, standing]
  cases (T (.question id)).bind Row.question? <;> simp

theorem bind_countAward_eq_none_iff {T : Tables} {id : Int} :
    (T (.badge id)).bind Row.countAward = none ↔ stands T (.badge id) = false := by
  rw [Row.countAward, Row.bind_onBadge, stands, standing]
  cases (T (.badge id)).bind Row.badge? <;> simp

/-- The terms of transactions that neither make nor remove questions and badges, with something that
is true of each when it commits. -/
def terms (P : Nat → Rows Key Row → Prop)
    (hP : ∀ i t, P i t → stands (t.publish i).committed = stands t.committed) : Terms Key Row where
  relies i t t' := t'.grip i = t.grip i ∧ stands t'.committed = stands t.committed
  atCommit := P
  refl _ _ := ⟨rfl, rfl⟩
  trans h h' := ⟨h'.1.trans h.1, h'.2.trans h.2⟩
  grip h := h.1
  others := by
    rintro i j t t' - hgrip (he | ⟨hj, he⟩)
    · exact ⟨hgrip, by rw [he]⟩
    · exact ⟨hgrip, by rw [he, hP j t hj]⟩

/-- **A last statement** on a row that stands or not, and that its transaction does not hold yet: at
the commit the row is changed as it is then. -/
theorem serves_alter_last {ch : Choices} {P : Nat → Rows Key Row → Prop}
    {hP : ∀ i t, P i t → stands (t.publish i).committed = stands t.committed} {i : Nat}
    {t : Rows Key Row} {s : Statement} {k : Key} {m : Row → Option Row} {g : Grips Key Row}
    {post : Nat → Rows Key Row → Prop} (hop : rowOp (ch.number i) s = some (.alter k m))
    (ht : t.grip i = g) (hk : g k = none)
    (hm : ∀ T : Tables, (T k).bind m = none ↔ stands T k = false)
    (altered : ∀ n t₁, (∀ t₂, (terms P hP).relies i t₁ t₂ →
      (∀ k', k' ≠ k → t₂.grip i k' = g k') ∧
        (t₂.publish i).committed = alter (g.onto t₂.committed) k m) → post n t₁) :
    (database ch).Serves i (terms P hP) (Database.onSuccess post) (Storage.execute s).run t := by
  have honto : ∀ c : Tables, g.onto c k = c k := fun c => by rw [Grips.onto, hk, Option.elim_none]
  refine Database.serves_execute (serves_alter_new hop ht hk
    (fun t₁ hr₁ hg₁ hnone => altered _ _ fun t₂ hr₂ => ?_)
    fun t₁ base v hg₁ hv => altered _ _ fun t₂ hr₂ => ?_)
  · have hg₂ : t₂.grip i = g := hr₂.1.trans hg₁
    have hnone₂ : (t₂.committed k).bind m = none := by
      rw [hm, hr₂.2, ← hm]
      exact hnone
    refine ⟨fun k' _ => congrFun hg₂ k', ?_⟩
    rw [Rows.committed_publish_eq_onto, hg₂, alter_of_none (by rw [honto, hnone₂])]
  · have hg₂ : t₂.grip i = g.hold k base (some v) := hr₂.1.trans hg₁
    refine ⟨fun k' hk' => by rw [hg₂, Grips.hold_of_ne hk'], ?_⟩
    rw [Rows.committed_publish_eq_onto, hg₂, Grips.hold_onto, alter_of_some]
    rw [honto, Rows.committed_of_hold hg₂, hv]

end Tables

end Forum
