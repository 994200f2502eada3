import Forum.Config.Load
import Mathlib.Data.List.Induction

/-!
# Settings by layers

What a tree holds under a name after some layers is what the last setting to name it made of it.

* `Tree.under?`, `Tree.last?`: the settings that name a member of the root, and the last of them;
* `lookup_setKey`: one setting changes the member that it names, and no other;
* **`lookup_addLayers`**: the last setting that names a member decides what it is.
-/

namespace Forum.Config.Tree

variable {α : Type} {name : String}

theorem lookup_put (ms : List (String × α)) (n : String) (a : α) :
    (put ms n a).lookup name = if n = name then some a else ms.lookup name := by
  have mapped : ∀ l : List (String × α),
      (l.map fun m => if m.1 = n then (n, a) else m).lookup name =
        if n = name then if l.any (·.1 = n) then some a else none else l.lookup name := by
    intro l
    induction l with
    | nil => simp
    | cons m l ih => grind
  unfold put
  split
  · next h => rw [mapped, if_pos h]
  · next h =>
    rw [List.lookup_append]
    by_cases hn : n = name
    · have none : ms.lookup n = none := by
        rw [List.lookup_eq_none_iff]
        intro m hm
        refine bne_iff_ne.mpr fun e => h (List.any_eq_true.mpr ⟨m, hm, ?_⟩)
        exact decide_eq_true e.symm
      rw [if_pos hn, ← hn, none]
      simp
    · simp [hn, List.lookup_cons, beq_false_of_ne (Ne.symm hn)]

/-! ## One setting -/

theorem steps?_dot {fuel : Nat} {s : List Char} {path : List Step}
    (h : steps? fuel ('.' :: s) = some path) : ∃ n rest, path = .member n :: rest := by
  cases fuel with
  | zero => simp [steps?] at h
  | succ fuel =>
    rw [steps?] at h
    split at h
    · cases h
    · obtain ⟨rest, -, rfl⟩ := Option.map_eq_some_iff.mp h
      exact ⟨_, rest, rfl⟩

theorem pathOf_eq (key : String) : ∃ n path, pathOf key = .member n :: path := by
  unfold pathOf
  cases h : steps? (key.length + 1) ('.' :: key.toList) with
  | some path => exact steps?_dot h
  | none => exact ⟨key, [], rfl⟩

/-- What a setting is to a member of the root: the path inside the member, and the value. -/
def under? (name : String) (e : String × Tree) : Option (List Step × Tree) :=
  match pathOf e.1 with
  | .member n :: path => if n = name then some (path, e.2) else none
  | _ => none

theorem lookup_setKey (root : Tree) (key : String) (v : Tree) :
    (setKey root key v).members.lookup name =
      match under? name (key, v) with
      | some (path, v) => some (setAt v path (root.members.lookup name))
      | none => root.members.lookup name := by
  obtain ⟨n, path, h⟩ := pathOf_eq key
  simp only [setKey, under?, h, setAt, members, Option.map_some, Option.getD_some, lookup_put]
  by_cases hn : n = name
  · simp [hn]
  · simp [hn]

theorem setKey_eq_table (root : Tree) (key : String) (v : Tree) :
    ∃ ms, setKey root key v = table ms := by
  obtain ⟨n, path, h⟩ := pathOf_eq key
  exact ⟨_, by rw [setKey, h, setAt]⟩

theorem asText?_setAt (v : Tree) (path : List Step) (old : Option Tree) :
    (setAt v path old).asText? = if path = [] then v.asText? else none := by
  cases path with
  | nil => cases v <;> rfl
  | cons step path => cases step <;> rfl

/-! ## Layers of settings -/

/-- The last of the settings that name a member of the root. -/
def last? (name : String) (layers : List (List (String × Tree))) : Option (List Step × Tree) :=
  (layers.flatten.filterMap (under? name)).getLast?

theorem addLayers_eq (root : Tree) (layers : List (List (String × Tree))) :
    layers.foldl addLayer root = addLayer root layers.flatten :=
  List.foldl_flatten.symm

theorem addLayer_append_singleton (root : Tree) (layer : List (String × Tree))
    (e : String × Tree) : addLayer root (layer ++ [e]) = (addLayer root layer).setKey e.1 e.2 :=
  List.foldl_append

theorem addLayer_eq_table (ms : List (String × Tree)) (layer : List (String × Tree)) :
    ∃ ms', addLayer (table ms) layer = table ms' := by
  induction layer using List.reverseRecOn with
  | nil => exact ⟨ms, rfl⟩
  | append_singleton layer e _ =>
    rw [addLayer_append_singleton]
    exact setKey_eq_table _ _ _

/-- **The last setting decides.** A member of the root is as before if no setting names it, and
else the last setting to name it was made on what was there. -/
theorem lookup_addLayers (name : String) (root : Tree) (layers : List (List (String × Tree))) :
    match last? name layers with
    | some (path, v) => ∃ old, (layers.foldl addLayer root).members.lookup name =
        some (setAt v path old)
    | none => (layers.foldl addLayer root).members.lookup name = root.members.lookup name := by
  rw [addLayers_eq, last?]
  induction layers.flatten using List.reverseRecOn with
  | nil => rfl
  | append_singleton layer e ih =>
    rw [addLayer_append_singleton, lookup_setKey, List.filterMap_append]
    cases h : under? name e with
    | some found => simp [h]
    | none => simpa [h] using ih

end Forum.Config.Tree
