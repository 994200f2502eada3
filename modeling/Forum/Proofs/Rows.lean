import Mathlib.Logic.Function.Basic

/-!
# Rows that transactions hold

The rows of a database at the level READ COMMITTED. A transaction that locks or changes a row holds
it until it ends, and what it makes of the row is a version of its own until then.

A statement here acts at one moment: a match when it gets hold of the row, after any waiting, and a
miss when the row is not there.

* `Rows`: the committed versions and who holds what; `Rows.grip`: what a transaction holds;
* `Rows.touch`: a statement on a row if it is there; `Rows.put`: one that makes it if it is not;
* `Rows.publish`, `Rows.release`: the two ends of a transaction;
* **`touch_cases`**, **`put_cases`**: all that a statement can do;
* **`touch_frame`**, **`put_frame`**, **`grip_publish_of_ne`**: no transaction changes what another
  one holds.
-/

namespace Forum

/-- The hold of a transaction on a row: its own version, and whether it has read the committed
one. -/
structure Hold (V : Type) where
  tx : Nat
  version : Option V
  read : Bool

/-- What a transaction holds of a row: the committed version, its own version, and whether it has
read the committed one. -/
structure Grip (V : Type) where
  base : Option V
  version : Option V
  read : Bool

/-- Rows by their keys: the committed versions, and the holds. -/
structure Rows (K V : Type) where
  committed : K → Option V
  holds : K → Option (Hold V)

/-- What a transaction holds of all rows. -/
abbrev Grips (K V : Type) := K → Option (Grip V)

/-- A transaction that holds nothing. -/
def Grips.nothing {K V : Type} : Grips K V := fun _ => none

namespace Rows

variable {K V : Type} {t t' : Rows K V} {i j : Nat} {k : K} {f : V → Option V} {v : V}

/-- What a transaction holds. -/
def grip (t : Rows K V) (i : Nat) : Grips K V := fun k =>
  match t.holds k with
  | some h => if h.tx = i then some ⟨t.committed k, h.version, h.read⟩ else none
  | none => none

/-- Nobody but a transaction holds a row. -/
def FreeFor (t : Rows K V) (i : Nat) (k : K) : Prop := ∀ h, t.holds k = some h → h.tx = i

theorem grip_eq_some {g : Grip V} :
    t.grip i k = some g ↔
      ∃ h, t.holds k = some h ∧ h.tx = i ∧ ⟨t.committed k, h.version, h.read⟩ = g := by
  unfold grip
  cases t.holds k with
  | none => simp
  | some h => by_cases hi : h.tx = i <;> simp [hi]

theorem freeFor_of_grip {g : Grip V} (hg : t.grip i k = some g) : t.FreeFor i k := by
  obtain ⟨h, hh, hi, -⟩ := grip_eq_some.mp hg
  intro h' hh'
  rw [hh, Option.some.injEq] at hh'
  rw [← hh', hi]

theorem freeFor_of_free (hh : t.holds k = none) : t.FreeFor i k := by
  intro h hk
  rw [hh] at hk
  cases hk

/-- The holds of all but one transaction. -/
def otherHolds (t : Rows K V) (i : Nat) : K → Option (Hold V) := fun k =>
  (t.holds k).filter (·.tx ≠ i)

/-- The end of a transaction that is rolled back. -/
def release (t : Rows K V) (i : Nat) : Rows K V := ⟨t.committed, t.otherHolds i⟩

/-- The end of a transaction whose versions are committed. -/
def publish (t : Rows K V) (i : Nat) : Rows K V where
  committed k := (t.grip i k).elim (t.committed k) Grip.version
  holds := t.otherHolds i

theorem committed_publish :
    (t.publish i).committed k = (t.grip i k).elim (t.committed k) Grip.version := rfl

/-! ## The ends of transactions -/

theorem grip_eq_nothing_of_otherHolds {c : K → Option V} :
    (⟨c, t.otherHolds i⟩ : Rows K V).grip i = Grips.nothing := by
  funext k
  cases hh : t.holds k with
  | none => simp [grip, otherHolds, hh, Grips.nothing]
  | some h =>
    by_cases hi : h.tx = i <;> simp [grip, otherHolds, hh, Option.filter, hi, Grips.nothing]

theorem grip_eq_of_otherHolds {c : K → Option V} (hc : ∀ k, t.grip i k = none → c k = t.committed k)
    (hne : j ≠ i) : (⟨c, t.otherHolds i⟩ : Rows K V).grip j = t.grip j := by
  funext k
  cases hh : t.holds k with
  | none => simp [grip, otherHolds, hh]
  | some h =>
    by_cases hi : h.tx = i
    · simp [grip, otherHolds, hh, Option.filter, hi, Ne.symm hne]
    · have hk : c k = t.committed k := hc k (by simp [grip, hh, hi])
      simp [grip, otherHolds, hh, Option.filter, hi, hk]

theorem grip_release_self : (t.release i).grip i = Grips.nothing := grip_eq_nothing_of_otherHolds

theorem grip_publish_self : (t.publish i).grip i = Grips.nothing := grip_eq_nothing_of_otherHolds

theorem grip_release_of_ne (hne : j ≠ i) : (t.release i).grip j = t.grip j :=
  grip_eq_of_otherHolds (fun _ _ => rfl) hne

/-- **A commit** leaves to the others what they hold. -/
theorem grip_publish_of_ne (hne : j ≠ i) : (t.publish i).grip j = t.grip j :=
  grip_eq_of_otherHolds (fun k hk => by rw [hk, Option.elim_none]) hne

/-! ## Statements -/

section Statements

variable [DecidableEq K]

/-- A hold on a row. -/
def withHold (t : Rows K V) (k : K) (h : Hold V) : Rows K V :=
  { t with holds := Function.update t.holds k (some h) }

/-- A statement that reads, changes or deletes the row of a key: the version that it finds, or none
if there is no row. A row that another transaction holds makes it wait, but one that is not yet
committed is not there. -/
def touch (t : Rows K V) (i : Nat) (k : K) (f : V → Option V) : Option (Option V × Rows K V) :=
  match t.holds k with
  | some h =>
    if h.tx = i then
      match h.version with
      | some v => some (some v, t.withHold k { h with version := f v })
      | none => some (none, t)
    else
      match t.committed k with
      | some _ => none
      | none => some (none, t)
  | none =>
    match t.committed k with
    | some v => some (some v, t.withHold k ⟨i, f v, true⟩)
    | none => some (none, t)

/-- Such a statement with the answer that it gives to what it finds. -/
def touchThen {α : Type} (t : Rows K V) (i : Nat) (k : K) (f : V → Option V)
    (answer : Option V → α) : Option (α × Rows K V) :=
  (t.touch i k f).map fun (found, t) => (answer found, t)

/-- A statement that makes the row of a key, or takes the row that is there and does not look at it.
Whoever else holds the row makes it wait. -/
def put (t : Rows K V) (i : Nat) (k : K) (v : V) : Option (Rows K V) :=
  match t.holds k with
  | some h => if h.tx = i then some (t.withHold k { h with version := some v }) else none
  | none => some (t.withHold k ⟨i, some v, false⟩)

theorem grip_withHold (h : Hold V) :
    (t.withHold k h).grip j = Function.update (t.grip j) k
      (if h.tx = j then some ⟨t.committed k, h.version, h.read⟩ else none) := by
  funext k'
  by_cases hk : k' = k
  · subst hk
    simp [grip, withHold]
  · simp [grip, withHold, hk]

theorem withHold_frame (version : Option V) (read : Bool) (hf : t.FreeFor i k) :
    (t.withHold k ⟨i, version, read⟩).committed = t.committed ∧
      ∀ j, j ≠ i → (t.withHold k ⟨i, version, read⟩).grip j = t.grip j := by
  refine ⟨rfl, fun j hne => ?_⟩
  have hk : t.grip j k = none := by
    cases hh : t.holds k with
    | none => simp [grip, hh]
    | some h => simp [grip, hh, hf h hh, Ne.symm hne]
  rw [grip_withHold, if_neg (Ne.symm hne), ← hk, Function.update_eq_self]

/-- **What a match does**: it misses, it finds the version of its own transaction, or it reads the
committed one of a row that nobody holds. -/
theorem touch_cases {found : Option V} (h : t.touch i k f = some (found, t')) :
    (found = none ∧ t' = t ∧ ((t.grip i k = none ∧ t.committed k = none) ∨
      ∃ g, t.grip i k = some g ∧ g.version = none)) ∨
    (∃ g v, found = some v ∧ t.grip i k = some g ∧ g.version = some v ∧
      t' = t.withHold k ⟨i, f v, g.read⟩) ∨
    ∃ v, found = some v ∧ t.holds k = none ∧ t.committed k = some v ∧
      t' = t.withHold k ⟨i, f v, true⟩ := by
  unfold touch at h
  split at h
  · next hold hh =>
    split at h
    · next hi =>
      have hg : t.grip i k = some ⟨t.committed k, hold.version, hold.read⟩ :=
        grip_eq_some.mpr ⟨hold, hh, hi, rfl⟩
      split at h
      · next v hv =>
        cases h
        exact .inr (.inl ⟨_, v, rfl, hg, hv, by rw [← hi]⟩)
      · next hv =>
        cases h
        exact .inl ⟨rfl, rfl, .inr ⟨_, hg, hv⟩⟩
    · next hi =>
      split at h
      · cases h
      · next hc =>
        cases h
        exact .inl ⟨rfl, rfl, .inl ⟨by simp [grip, hh, hi], hc⟩⟩
  · next hh =>
    split at h
    · next v hc =>
      cases h
      exact .inr (.inr ⟨v, rfl, hh, hc, rfl⟩)
    · next hc =>
      cases h
      exact .inl ⟨rfl, rfl, .inl ⟨by simp [grip, hh], hc⟩⟩

/-- **What a put does**: it makes a version of a row that its transaction holds, or of one that
nobody holds. -/
theorem put_cases (h : t.put i k v = some t') :
    (∃ g, t.grip i k = some g ∧ t' = t.withHold k ⟨i, some v, g.read⟩) ∨
      (t.holds k = none ∧ t' = t.withHold k ⟨i, some v, false⟩) := by
  unfold put at h
  split at h
  · next hold hh =>
    split at h
    · next hi =>
      cases h
      exact .inl ⟨_, grip_eq_some.mpr ⟨hold, hh, hi, rfl⟩, by rw [← hi]⟩
    · cases h
  · next hh =>
    cases h
    exact .inr ⟨hh, rfl⟩

theorem touch_frame {found : Option V} (h : t.touch i k f = some (found, t')) :
    t'.committed = t.committed ∧ ∀ j, j ≠ i → t'.grip j = t.grip j := by
  rcases touch_cases h with ⟨-, rfl, -⟩ | ⟨g, v, -, hg, -, rfl⟩ | ⟨v, -, hh, -, rfl⟩
  · exact ⟨rfl, fun _ _ => rfl⟩
  · exact withHold_frame _ _ (freeFor_of_grip hg)
  · exact withHold_frame _ _ (freeFor_of_free hh)

theorem touchThen_eq_some {α : Type} {answer : Option V → α} {a : α} :
    t.touchThen i k f answer = some (a, t') ↔
      ∃ found, t.touch i k f = some (found, t') ∧ answer found = a := by
  simp [touchThen]

theorem put_frame (h : t.put i k v = some t') :
    t'.committed = t.committed ∧ ∀ j, j ≠ i → t'.grip j = t.grip j := by
  rcases put_cases h with ⟨g, hg, rfl⟩ | ⟨hh, rfl⟩
  · exact withHold_frame _ _ (freeFor_of_grip hg)
  · exact withHold_frame _ _ (freeFor_of_free hh)

/-- A match of a row that the transaction does not hold: none is committed, or it is read and
held. -/
theorem touch_of_not_held {found : Option V} (hk : t.grip i k = none)
    (h : t.touch i k f = some (found, t')) :
    (found = none ∧ t' = t ∧ t.committed k = none) ∨ ∃ v, found = some v ∧
      t'.grip i = Function.update (t.grip i) k (some ⟨some v, f v, true⟩) := by
  rcases touch_cases h with ⟨hf, ht, ⟨-, hc⟩ | ⟨g, hg, -⟩⟩ | ⟨g, v, -, hg, -, -⟩ |
    ⟨v, hf, -, hc, rfl⟩
  · exact .inl ⟨hf, ht, hc⟩
  · rw [hk] at hg
    cases hg
  · rw [hk] at hg
    cases hg
  · exact .inr ⟨v, hf, by rw [grip_withHold, if_pos rfl, hc]⟩

theorem touch_of_held {found : Option V} {g : Grip V} (hk : t.grip i k = some g)
    (hv : g.version = some v) (h : t.touch i k f = some (found, t')) :
    found = some v ∧
      t'.grip i = Function.update (t.grip i) k (some { g with version := f v }) := by
  have hbase : t.committed k = g.base := by
    obtain ⟨_, -, -, rfl⟩ := grip_eq_some.mp hk
    rfl
  rcases touch_cases h with ⟨-, -, ⟨hn, -⟩ | ⟨g', hg, hn⟩⟩ | ⟨g', v', hf, hg, hv', rfl⟩ |
    ⟨v', -, hh, -, -⟩
  · rw [hk] at hn
    cases hn
  · rw [hk, Option.some.injEq] at hg
    rw [← hg, hv] at hn
    cases hn
  · rw [hk, Option.some.injEq] at hg
    subst hg
    rw [hv, Option.some.injEq] at hv'
    subst hv'
    exact ⟨hf, by rw [grip_withHold, if_pos rfl, hbase]⟩
  · simp [grip, hh] at hk

theorem put_of_not_held (hk : t.grip i k = none) (h : t.put i k v = some t') :
    t'.grip i = Function.update (t.grip i) k (some ⟨t.committed k, some v, false⟩) := by
  rcases put_cases h with ⟨g, hg, -⟩ | ⟨-, rfl⟩
  · rw [hk] at hg
    cases hg
  · rw [grip_withHold, if_pos rfl]

theorem put_of_held {g : Grip V} (hk : t.grip i k = some g) (h : t.put i k v = some t') :
    t'.grip i = Function.update (t.grip i) k (some { g with version := some v }) := by
  have hbase : t.committed k = g.base := by
    obtain ⟨_, -, -, rfl⟩ := grip_eq_some.mp hk
    rfl
  rcases put_cases h with ⟨g', hg, rfl⟩ | ⟨hh, -⟩
  · rw [hk, Option.some.injEq] at hg
    subst hg
    rw [grip_withHold, if_pos rfl, hbase]
  · simp [grip, hh] at hk

end Statements

end Rows

end Forum
