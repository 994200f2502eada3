import Forum.Proofs.Filled

/-!
# The conjuncts of a clause

A clause is read from left to right. Every `AND` that stands between blanks and outside of all
parentheses ends a conjunct.

* `Cursor`, `Cursor.step`: how deep the parentheses are, and how much of ` AND ` has just been read;
* `conjuncts`: what the connectives of a clause join;
* `passes`, `Whole`: a clause without a connective of its own;
* **`conjuncts_intercalate`**: the conjuncts of a conjunction are what it was made of.
-/

namespace Forum.Sql

namespace Filled

/-- What stands between two conjuncts. -/
def connective : List Char := " AND ".toList

/-- How deep the parentheses are at a place of a clause, and how much of the connective has just
been read. -/
structure Cursor where
  depth : Nat
  matched : Nat
deriving DecidableEq, Repr

namespace Cursor

/-- The start of a clause, or of a conjunct. -/
def start : Cursor := ⟨0, 0⟩

/-- One character or value more. Nothing is a connective inside of parentheses. -/
def step (p : Cursor) : Char ⊕ Value → Cursor
  | .inr _ => ⟨p.depth, 0⟩
  | .inl '(' => ⟨p.depth + 1, 0⟩
  | .inl ')' => ⟨p.depth - 1, 0⟩
  | .inl c =>
    if p.depth ≠ 0 then ⟨p.depth, 0⟩
    else if connective[p.matched]? = some c then ⟨0, p.matched + 1⟩
    else if connective.head? = some c then ⟨0, 1⟩
    else ⟨0, 0⟩

/-- Has the connective just ended? -/
def atEnd (p : Cursor) : Bool := p.matched = connective.length

end Cursor

/-- What has been read of a clause: the conjuncts that have ended, and what there is of the next. -/
structure Cutting where
  done : List Filled
  now : Filled
  cursor : Cursor

/-- One character or value more: with the end of a connective, a conjunct has ended before it. -/
def Cutting.step (l : Cutting) (x : Char ⊕ Value) : Cutting :=
  let now := l.now ++ [x]
  if (l.cursor.step x).atEnd then
    ⟨l.done ++ [now.take (now.length - connective.length)], [], .start⟩
  else ⟨l.done, now, l.cursor.step x⟩

/-- The conjuncts of a clause, from left to right. -/
def conjuncts (f : Filled) : List Filled :=
  let l := f.foldl Cutting.step ⟨[], [], .start⟩
  l.done ++ [l.now]

/-- Where a cursor gets to in a text in which no connective ends. -/
def passes (p : Cursor) : Filled → Option Cursor
  | [] => some p
  | x :: f => if (p.step x).atEnd then none else passes (p.step x) f

theorem passes_append (p : Cursor) (f g : Filled) :
    passes p (f ++ g) = (passes p f).bind (passes · g) := by
  induction f generalizing p with
  | nil => rfl
  | cons x f ih =>
    rw [List.cons_append, passes, passes, ih]
    split <;> rfl

theorem passes_value (p : Cursor) (v : Value) : passes p (value v) = some ⟨p.depth, 0⟩ := by
  have h : (p.step (.inr v)).atEnd = false := rfl
  rw [value, passes, h]
  rfl

/-- A clause without a connective of its own, and with as many parentheses closed as open. -/
def Whole (f : Filled) : Prop := passes .start f = some .start

theorem foldl_of_passes {f : Filled} {p q : Cursor} (h : passes p f = some q)
    (done : List Filled) (now : Filled) :
    f.foldl Cutting.step ⟨done, now, p⟩ = ⟨done, now ++ f, q⟩ := by
  induction f generalizing p now with
  | nil =>
    cases h
    rw [List.append_nil]
    rfl
  | cons x f ih =>
    rw [passes] at h
    split at h
    · cases h
    · next hx =>
      have hstep : Cutting.step ⟨done, now, p⟩ x = ⟨done, now ++ [x], p.step x⟩ := if_neg hx
      rw [List.foldl_cons, hstep, ih h, List.append_assoc]
      rfl

theorem foldl_connective (done : List Filled) (now : Filled) :
    (plain " AND ").foldl Cutting.step ⟨done, now, .start⟩ = ⟨done ++ [now], [], .start⟩ := by
  have hfirst : passes .start (plain " AND") = some ⟨0, 4⟩ := by decide +kernel
  have hend : (Cursor.step ⟨0, 4⟩ (.inl ' ')).atEnd = true := by decide +kernel
  have hsplit : plain " AND " = plain " AND" ++ [.inl ' '] := plain_split (u := " ") rfl
  have hcut : Cutting.step ⟨done, now ++ plain " AND", ⟨0, 4⟩⟩ (.inl ' ') =
      ⟨done ++ [now], [], .start⟩ := by
    rw [Cutting.step, if_pos hend, List.append_assoc, ← hsplit]
    have hlen : (plain " AND ").length = connective.length := List.length_map _
    rw [List.length_append, hlen, Nat.add_sub_cancel, List.take_left]
  rw [hsplit, List.foldl_append, foldl_of_passes hfirst, List.foldl_cons, hcut]
  rfl

theorem foldl_conjunction {f : Filled} {fs : List Filled} (hf : Whole f) (hfs : ∀ g ∈ fs, Whole g)
    (done : List Filled) :
    (f ++ fs.flatMap (plain " AND " ++ ·)).foldl Cutting.step ⟨done, [], .start⟩ =
      ⟨done ++ (f :: fs).dropLast, (f :: fs).getLast (List.cons_ne_nil f fs), .start⟩ := by
  induction fs generalizing f done with
  | nil =>
    rw [List.flatMap_nil, List.append_nil, foldl_of_passes hf]
    simp
  | cons g fs ih =>
    have hg : Whole g := hfs g List.mem_cons_self
    rw [List.foldl_append, foldl_of_passes hf, List.flatMap_cons, List.append_assoc,
      List.foldl_append, List.nil_append, foldl_connective,
      ih hg fun k hk => hfs k (List.mem_cons_of_mem _ hk)]
    simp

theorem intercalate_cons {α : Type} (sep f : List α) (fs : List (List α)) :
    sep.intercalate (f :: fs) = f ++ fs.flatMap (sep ++ ·) := by
  induction fs generalizing f with
  | nil => simp
  | cons g fs ih => rw [List.intercalate_cons_cons, ih, List.flatMap_cons]; simp

/-- **The conjuncts of a conjunction** are what it was made of. -/
theorem conjuncts_intercalate {fs : List Filled} (hne : fs ≠ []) (h : ∀ f ∈ fs, Whole f) :
    conjuncts ((plain " AND ").intercalate fs) = fs := by
  obtain ⟨f, fs, rfl⟩ := List.exists_cons_of_ne_nil hne
  rw [conjuncts, intercalate_cons,
    foldl_conjunction (h f List.mem_cons_self) fun g hg => h g (List.mem_cons_of_mem _ hg)]
  exact List.dropLast_concat_getLast _

example : (conjuncts (plain "a = 1 AND (b = 2 AND c = 3) AND d = 4")).length = 3 := by
  decide +kernel

end Filled

end Forum.Sql
