import Forum.Proofs.World
import Mathlib.Data.List.Forall2

/-!
# Lists of results

* `map_eq_ok`, `map_eq_error`: what is made of a result;
* **`mapM_eq_ok_iff`**, **`mapM_eq_error_iff`**: a list of results, each of them there or the first
  failure; `mem_of_mapM`: its members;
* `World.result_mapM`: the results of a list of programs.
-/

namespace Forum

section Results

variable {α β ε : Type}

theorem map_eq_ok {f : α → β} {x : Except ε α} {b : β} :
    f <$> x = .ok b ↔ ∃ a, x = .ok a ∧ f a = b := by
  cases x with
  | error e =>
    constructor
    · intro h
      cases h
    · rintro ⟨a, h, -⟩
      cases h
  | ok a =>
    constructor
    · intro h
      exact ⟨a, rfl, Except.ok.inj h⟩
    · rintro ⟨a, h, rfl⟩
      cases h
      rfl

theorem map_eq_error {f : α → β} {x : Except ε α} {e : ε} : f <$> x = .error e ↔ x = .error e := by
  cases x <;> simp [Functor.map, Except.map]

variable {f : α → Except ε β}

theorem mapM_cons_error {a : α} {l : List α} {e : ε} (h : f a = .error e) :
    (a :: l).mapM f = .error e := by
  rw [List.mapM_cons, h]
  rfl

theorem mapM_cons_ok {a : α} {l : List α} {b : β} (h : f a = .ok b) :
    (a :: l).mapM f = (l.mapM f).map (b :: ·) := by
  rw [List.mapM_cons, h]
  cases l.mapM f <;> rfl

theorem mapM_eq_ok_iff {l : List α} {bs : List β} :
    l.mapM f = .ok bs ↔ List.Forall₂ (fun a b => f a = .ok b) l bs := by
  induction l generalizing bs with
  | nil =>
    rw [List.mapM_nil, List.forall₂_nil_left_iff]
    constructor
    · intro h
      cases h
      rfl
    · rintro rfl
      rfl
  | cons a l ih =>
    rw [List.forall₂_cons_left_iff]
    cases h : f a with
    | error e =>
      rw [mapM_cons_error h]
      simp
    | ok b =>
      rw [mapM_cons_ok h]
      cases hl : l.mapM f with
      | error e =>
        have none : ∀ cs, ¬ List.Forall₂ (fun a b => f a = .ok b) l cs := by
          intro cs hcs
          rw [← ih, hl] at hcs
          cases hcs
        simp [Except.map, none]
      | ok cs =>
        simp only [Except.map, Except.ok.injEq, ← ih, hl]
        constructor
        · rintro rfl
          exact ⟨b, cs, rfl, rfl, rfl⟩
        · rintro ⟨_, _, rfl, rfl, rfl⟩
          rfl

theorem mem_of_mapM {l : List α} {bs : List β} (h : l.mapM f = .ok bs) (b : β) :
    b ∈ bs ↔ ∃ a ∈ l, f a = .ok b := by
  have hpairs := mapM_eq_ok_iff.mp h
  clear h
  induction hpairs with
  | nil => simp
  | cons hab _ ih =>
    rw [List.mem_cons, List.exists_mem_cons_iff, hab, Except.ok.injEq, eq_comm]
    exact or_congr_right ih

theorem mapM_eq_error_iff {l : List α} {e : ε} :
    l.mapM f = .error e ↔ ∃ before a after, l = before ++ a :: after ∧
      (∀ b ∈ before, ∃ c, f b = .ok c) ∧ f a = .error e := by
  induction l with
  | nil =>
    rw [List.mapM_nil]
    simp [pure, Except.pure]
  | cons a l ih =>
    cases h : f a with
    | error e' =>
      rw [mapM_cons_error h]
      constructor
      · intro he
        cases he
        exact ⟨[], a, l, rfl, by simp, h⟩
      · rintro ⟨before, a', after, hl, hbefore, he⟩
        cases before with
        | nil =>
          cases hl
          rw [h] at he
          cases he
          rfl
        | cons b before =>
          cases hl
          obtain ⟨c, hc⟩ := hbefore a List.mem_cons_self
          rw [h] at hc
          cases hc
    | ok c =>
      have hmap : (l.mapM f).map (c :: ·) = .error e ↔ l.mapM f = .error e := by
        cases l.mapM f <;> simp [Except.map]
      rw [mapM_cons_ok h, hmap, ih]
      constructor
      · rintro ⟨before, a', after, rfl, hbefore, he⟩
        exact ⟨a :: before, a', after, rfl, List.forall_mem_cons.mpr ⟨⟨c, h⟩, hbefore⟩, he⟩
      · rintro ⟨before, a', after, hl, hbefore, he⟩
        cases before with
        | nil =>
          cases hl
          rw [h] at he
          cases he
        | cons b before =>
          cases hl
          exact ⟨before, a', after, rfl, fun b hb => hbefore b (List.mem_cons_of_mem _ hb), he⟩

theorem mapM_map {γ : Type} (g : β → γ) (l : List α) :
    (l.mapM f).map (List.map g) = l.mapM fun a => (f a).map g := by
  induction l with
  | nil => rfl
  | cons a l ih =>
    cases h : f a with
    | error e =>
      have hg : (f a).map g = .error e := by rw [h]; rfl
      rw [mapM_cons_error h, mapM_cons_error (f := fun a => (f a).map g) hg]
      rfl
    | ok b =>
      have hg : (f a).map g = .ok (g b) := by rw [h]; rfl
      rw [mapM_cons_ok h, mapM_cons_ok (f := fun a => (f a).map g) hg, ← ih]
      cases l.mapM f <;> rfl

theorem mapM_const {l : List α} (hl : l ≠ []) (r : Except ε β) :
    l.mapM (fun _ => r) = r.map fun b => l.map fun _ => b := by
  cases r with
  | error e =>
    obtain ⟨a, l, rfl⟩ := List.exists_cons_of_ne_nil hl
    exact mapM_cons_error rfl
  | ok b =>
    refine mapM_eq_ok_iff.mpr (List.forall₂_map_right_iff.mpr (List.forall₂_same.mpr ?_))
    exact fun _ _ => rfl

end Results

theorem World.result_mapM (w : World) {α β ε : Type} (f : α → ExceptT ε Service β) (l : List α) :
    w.result (l.mapM f).run = l.mapM fun a => w.result (f a).run := by
  induction l with
  | nil => rfl
  | cons a l ih =>
    rw [List.mapM_cons, result_bind_except]
    cases h : w.result (f a).run with
    | error e => exact (mapM_cons_error (f := fun a => w.result (f a).run) h).symm
    | ok b =>
      dsimp only
      rw [result_bind_except, ih, mapM_cons_ok (f := fun a => w.result (f a).run) h]
      cases l.mapM fun a => w.result (f a).run <;> rfl

end Forum
