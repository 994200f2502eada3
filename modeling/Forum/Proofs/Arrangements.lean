import Mathlib.Data.List.Sort

/-!
# Sorted lists with ties

There is more than one way to sort what has equal keys. How far two ways agree depends on where such
ties are.

* `Arranges`: a list of all rows, with the greatest keys first;
* `CutsTie`: a place between two rows with equal keys;
* `Arranges.swap`: a tie can be arranged the other way round;
* **`Arranges.take_perm`**: where no tie is cut, all arrangements have the same rows before it.
-/

namespace Forum

variable {α κ : Type}

/-! ## Places in a list -/

/-- Two rows with equal keys stand on both sides of this place in a list. -/
def CutsTie (key : α → κ) (l : List α) (m : Nat) : Prop :=
  ∃ before a b after, l = before ++ a :: b :: after ∧ before.length + 1 = m ∧ key a = key b

variable {key : α → κ} {rows l l' : List α} {a b : α}

theorem exists_split {m : Nat} (hpos : 0 < m) (hm : m < l.length) :
    ∃ before a b after, l = before ++ a :: b :: after ∧ before.length + 1 = m := by
  obtain ⟨m, rfl⟩ : ∃ n, m = n + 1 := ⟨m - 1, by omega⟩
  refine ⟨l.take m, l[m], l[m + 1], l.drop (m + 2), ?_, ?_⟩
  · rw [← List.drop_eq_getElem_cons, ← List.drop_eq_getElem_cons, List.take_append_drop]
  · rw [List.length_take]
    omega

theorem take_of_split {before after : List α} {m : Nat} (h : before.length + 1 = m) :
    (before ++ a :: after).take m = before ++ [a] := by
  subst h
  rw [List.take_length_add_append]
  rfl

theorem drop_of_split {before after : List α} {m : Nat} (h : before.length + 1 = m) :
    (before ++ a :: after).drop m = after := by
  subst h
  rw [List.drop_length_add_append]
  rfl

/-- Where all keys are different there is no tie. -/
theorem not_cutsTie_of_nodup {m : Nat} (h : (l.map key).Nodup) : ¬ CutsTie key l m := by
  rintro ⟨before, a, b, after, rfl, -, hab⟩
  rw [List.map_append] at h
  have hpair := (List.nodup_append.mp h).2.1
  rw [List.map_cons, List.map_cons, List.nodup_cons, hab] at hpair
  exact hpair.1 List.mem_cons_self

/-! ## Arrangements -/

variable [LinearOrder κ]

/-- The list has all rows, with the greatest keys first. -/
structure Arranges (key : α → κ) (rows l : List α) : Prop where
  perm : l.Perm rows
  sorted : l.Pairwise fun a b => key b ≤ key a

theorem exists_arranges (key : α → κ) (rows : List α) : ∃ l, Arranges key rows l := by
  have total : Std.Total fun a b => key b ≤ key a := ⟨fun a b => le_total (key b) (key a)⟩
  have trans : IsTrans α fun a b => key b ≤ key a := ⟨fun _ _ _ hab hbc => hbc.trans hab⟩
  exact ⟨_, List.mergeSort_perm rows _, List.pairwise_mergeSort' (fun a b => key b ≤ key a) rows⟩

namespace Arranges

theorem le_of_split {before after : List α} (h : Arranges key rows (before ++ a :: b :: after)) :
    key b ≤ key a := by
  obtain ⟨-, hrest, -⟩ := List.pairwise_append.mp h.sorted
  exact (List.pairwise_cons.mp hrest).1 b List.mem_cons_self

theorem map_key_eq (h : Arranges key rows l) (h' : Arranges key rows l') :
    l.map key = l'.map key := by
  have hperm : (l.map key).Perm (l'.map key) := (h.perm.trans h'.perm.symm).map key
  have hsorted : (l.map key).Pairwise (· ≥ ·) := List.pairwise_map.mpr h.sorted
  have hsorted' : (l'.map key).Pairwise (· ≥ ·) := List.pairwise_map.mpr h'.sorted
  exact hperm.eq_of_pairwise (fun _ _ _ _ hab hba => le_antisymm hba hab) hsorted hsorted'

/-- **A tie can be arranged the other way round.** -/
theorem swap {before after : List α} (h : Arranges key rows (before ++ a :: b :: after))
    (hab : key a = key b) : Arranges key rows (before ++ b :: a :: after) where
  perm := (List.Perm.append_left before (.swap a b after)).trans h.perm
  sorted := by
    have hkeys : (before ++ b :: a :: after).map key = (before ++ a :: b :: after).map key := by
      simp [hab]
    have hsorted := h.sorted
    rw [← List.pairwise_map (R := fun k k' => k' ≤ k)] at hsorted ⊢
    rwa [hkeys]

/-- What stands before a place where keys differ are the rows with the greater keys. -/
theorem filter_eq {before after : List α} (h : Arranges key rows (before ++ a :: b :: after))
    (hlt : key b < key a) :
    (before ++ a :: b :: after).filter (key a ≤ key ·) = before ++ [a] := by
  obtain ⟨-, hrest, hbefore⟩ := List.pairwise_append.mp h.sorted
  obtain ⟨-, hafter⟩ := List.pairwise_cons.mp hrest
  have hkept : ∀ x ∈ before, key a ≤ key x := fun x hx => hbefore x hx a List.mem_cons_self
  have hleft : ∀ x ∈ b :: after, ¬ key a ≤ key x := by
    intro x hx
    refine not_le.mpr (lt_of_le_of_lt ?_ hlt)
    rcases List.mem_cons.mp hx with rfl | hx
    · exact le_refl _
    · exact (List.pairwise_cons.mp hafter).1 x hx
  rw [List.filter_append, List.filter_cons_of_pos (by simp),
    List.filter_eq_self.mpr (by simpa using hkept),
    List.filter_eq_nil_iff.mpr (by simpa using hleft)]

/-- **Where no tie is cut**, all arrangements have the same rows before it. -/
theorem take_perm {m : Nat} (h : Arranges key rows l) (h' : Arranges key rows l')
    (hno : ¬ CutsTie key l m) : (l.take m).Perm (l'.take m) := by
  have hperm : l.Perm l' := h.perm.trans h'.perm.symm
  rcases Nat.eq_zero_or_pos m with rfl | hpos
  · simp
  rcases Nat.lt_or_ge m l.length with hm | hm
  · obtain ⟨before, a, b, after, rfl, hbefore⟩ := exists_split hpos hm
    obtain ⟨before', a', b', after', rfl, hbefore'⟩ :=
      exists_split hpos (hperm.length_eq ▸ hm)
    have hne : key a ≠ key b := fun hab => hno ⟨before, a, b, after, rfl, hbefore, hab⟩
    have hkeys := h.map_key_eq h'
    rw [List.map_append, List.map_append] at hkeys
    obtain ⟨-, hkeys⟩ := List.append_inj hkeys (by simp; omega)
    obtain ⟨ha, hb, -⟩ : key a = key a' ∧ key b = key b' ∧ after.map key = after'.map key := by
      simpa using hkeys
    have hlt : key b < key a := lt_of_le_of_ne (le_of_split h) hne.symm
    -- Both lists have the same keys at this place, so the same rows are before it.
    have htake := h.filter_eq hlt
    have htake' := h'.filter_eq (ha ▸ hb ▸ hlt)
    rw [take_of_split hbefore, take_of_split hbefore', ← htake, ← htake', ← ha]
    exact hperm.filter _
  · rw [List.take_of_length_le hm, List.take_of_length_le (hperm.length_eq ▸ hm)]
    exact hperm

end Arranges

end Forum
