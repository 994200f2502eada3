/-!
# Letters that match regardless of case

* `lowerAscii`, `equalAscii`: the 26 letters only;
* `fold`: simple case folding as far as it reaches an ASCII letter. Beyond the 26 capitals these are
  U+017F (the long s) and U+212A (the Kelvin sign);
* `matchFolded`: a keyword in front of a text.
-/

namespace Forum.Text

/-- A capital among the 26 letters becomes small; nothing else changes. -/
def lowerAscii (c : Char) : Char :=
  if 'A' ≤ c ∧ c ≤ 'Z' then Char.ofNat (c.toNat + 32) else c

/-- Equal up to the case of the 26 letters. -/
def equalAscii (a b : String) : Bool := a.toList.map lowerAscii == b.toList.map lowerAscii

/-- Simple case folding, as far as it reaches an ASCII letter. -/
def fold (c : Char) : Char :=
  if c = '\u017f' then 's' else if c = '\u212a' then 'k' else lowerAscii c

/-- The rest of a text after a keyword in small letters, matched under `fold`. -/
def matchFolded : (keyword : List Char) → List Char → Option (List Char)
  | [], s => some s
  | _ :: _, [] => none
  | k :: ks, c :: s => if fold c = k then matchFolded ks s else none

/-- A text that starts with a keyword, letter for letter up to case. -/
theorem matchFolded_eq_some_iff {k s r : List Char} :
    matchFolded k s = some r ↔ ∃ h, s = h ++ r ∧ h.map fold = k := by
  induction k generalizing s with
  | nil =>
    constructor
    · intro h; cases h; exact ⟨[], rfl, rfl⟩
    · rintro ⟨h, rfl, hk⟩
      cases List.map_eq_nil_iff.1 hk; rfl
  | cons a k ih =>
    cases s with
    | nil =>
      constructor
      · intro h; cases h
      · rintro ⟨h, hs, hk⟩
        cases h with
        | nil => cases hk
        | cons => cases hs
    | cons c s =>
      simp only [matchFolded]
      split
      · rename_i hc
        rw [ih]
        constructor
        · rintro ⟨h, rfl, rfl⟩; exact ⟨c :: h, rfl, by simp [hc]⟩
        · rintro ⟨h, hs, hk⟩
          cases h with
          | nil => cases hk
          | cons d h =>
            simp only [List.cons_append, List.cons.injEq, List.map_cons] at hs hk
            exact ⟨h, hs.2, hk.2⟩
      · rename_i hc
        constructor
        · intro h; cases h
        · rintro ⟨h, hs, hk⟩
          cases h with
          | nil => cases hk
          | cons d h =>
            simp only [List.cons_append, List.cons.injEq, List.map_cons] at hs hk
            exact absurd (hs.1 ▸ hk.1) hc

end Forum.Text
