import Forum.Json.Decoder
import Forum.Proofs.Decimal
import Forum.Proofs.Spelling

/-!
# Integers in JSON

* `numeral?_decimal`, `value?_decimal`: the text of an integer is all of a JSON number, and its
  value; `value_decimal`: so it is at the start of a longer text;
* **`ofText_decimal`**: the document of the text of an integer;
* **`run_int_toText`**: an integer in range is read back from its JSON text.
-/

namespace Forum

namespace Json

open Text

namespace Doc

variable {rest : List Char}

/-- What follows a number does not go on with it. -/
def EndsNumber (rest : List Char) : Prop :=
  ∀ c ∈ rest.head?, c.isDigit = false ∧ c ≠ '.' ∧ c ≠ 'e' ∧ c ≠ 'E'

theorem endsNumber_nil : EndsNumber [] := fun _ hc => nomatch hc

theorem wholeDigits?_repr (n : Nat) (h : EndsNumber rest) :
    wholeDigits? (n.repr.toList ++ rest) = some (n.repr.toList, rest) := by
  obtain ⟨htake, hdrop⟩ : (n.repr.toList ++ rest).takeWhile Char.isDigit = n.repr.toList ∧
      (n.repr.toList ++ rest).dropWhile Char.isDigit = rest :=
    takeWhile_dropWhile_iff.mpr ⟨rfl, fun _ => isDigit_of_mem_repr, fun c hc => (h c hc).1⟩
  unfold wholeDigits?
  rw [htake, hdrop]
  dsimp only
  split
  · next h => exact absurd h (repr_ne_nil n)
  · next c s h => exact absurd h (repr_ne_zero_cons n c s)
  · rfl

theorem fraction?_of_endsNumber (h : EndsNumber rest) : fraction? rest = some (none, rest) := by
  cases rest with
  | nil => rfl
  | cons c rest => simp [fraction?, (h c rfl).2.1]

theorem exponent?_of_endsNumber (h : EndsNumber rest) : exponent? rest = some (none, rest) := by
  cases rest with
  | nil => rfl
  | cons c rest => simp [exponent?, (h c rfl).2.2.1, (h c rfl).2.2.2]

/-- The number after its sign. -/
def numeralAfter? (neg : Bool) (s : List Char) : Option (Numeral × List Char) := do
  let (whole, s) ← wholeDigits? s
  let (fraction, s) ← fraction? s
  let (expo, s) ← exponent? s
  return (⟨neg, whole, fraction, expo⟩, s)

theorem numeralAfter?_repr (neg : Bool) (n : Nat) (h : EndsNumber rest) :
    numeralAfter? neg (n.repr.toList ++ rest) =
      some (⟨neg, n.repr.toList, none, none⟩, rest) := by
  simp only [numeralAfter?, wholeDigits?_repr n h, fraction?_of_endsNumber h,
    exponent?_of_endsNumber h, Option.bind_eq_bind, Option.bind_some, Option.pure_def]

theorem numeral?_digit {c : Char} {s : List Char} (h : c.isDigit = true) :
    numeral? (c :: s) = numeralAfter? false (c :: s) := by
  have hc : c ≠ '-' := by
    rintro rfl
    exact absurd h (by decide)
  simp [numeral?, numeralAfter?, hc]

theorem numeral?_decimal (n : Int) (h : EndsNumber rest) : numeral? (decimal n ++ rest) =
    some (⟨decide (n < 0), n.natAbs.repr.toList, none, none⟩, rest) := by
  rcases Int.lt_or_le n 0 with hn | hn
  · rw [decimal_of_neg hn, decide_eq_true hn]
    exact numeralAfter?_repr true _ h
  · rw [decimal_of_nonneg hn, decide_eq_false (by omega), ← numeralAfter?_repr false _ h]
    obtain ⟨c, s, hs⟩ := List.exists_cons_of_ne_nil (repr_ne_nil n.natAbs)
    have hc : c.isDigit = true := isDigit_of_mem_repr (hs ▸ List.mem_cons_self)
    rw [hs, List.cons_append, numeral?_digit hc]

theorem value?_minus {k : Nat} (hpos : 0 < k) (hlo : Width.int64.lo ≤ -(k : Int)) :
    (⟨true, k.repr.toList, none, none⟩ : Numeral).value? = some (.int (-k)) := by
  have hfits : (0 < (k : Int) && Width.int64.lo ≤ -(k : Int)) = true := by
    simp [hpos, hlo]
  unfold Numeral.value?
  dsimp only
  rw [digitsValue_repr, if_pos rfl, hfits]
  rfl

theorem value?_digits {k : Nat} (hhi : (k : Int) ≤ Width.nat64.hi) :
    (⟨false, k.repr.toList, none, none⟩ : Numeral).value? = some (.int k) := by
  unfold Numeral.value?
  dsimp only
  rw [digitsValue_repr, if_neg Bool.false_ne_true, decide_eq_true hhi]
  rfl

theorem value?_decimal {n : Int} (h : Width.int64.lo ≤ n ∧ n ≤ Width.int64.hi) :
    (⟨decide (n < 0), n.natAbs.repr.toList, none, none⟩ : Numeral).value? = some (.int n) := by
  rcases Int.lt_or_le n 0 with hn | hn
  · have hneg : -(n.natAbs : Int) = n := by omega
    rw [decide_eq_true hn, value?_minus (by omega) (hneg.symm ▸ h.1), hneg]
  · have hpos : (n.natAbs : Int) = n := by omega
    have hwidth : Width.int64.hi ≤ Width.nat64.hi := by decide
    have hhi : (n.natAbs : Int) ≤ Width.nat64.hi := hpos.symm ▸ h.2.trans hwidth
    rw [decide_eq_false (by omega), value?_digits hhi, hpos]

/-- The blanks, and the characters that start anything but a number. -/
def otherStarts : List Char := [' ', '\t', '\n', '\r', '"', '[', '{', 'n', 't', 'f']

theorem not_mem_otherStarts {c : Char} (h : c = '-' ∨ c.isDigit = true) : c ∉ otherStarts := by
  have hall : (otherStarts.all fun c => c ≠ '-' && !c.isDigit) = true := rfl
  intro hc
  have hother := List.all_eq_true.mp hall c hc
  rcases h with h | h <;> simp [h] at hother

theorem atom_of_numeral {c : Char} {s : List Char} {d : Numeral} (hc : c ∉ otherStarts)
    (hd : numeral? (c :: s) = some (d, rest)) : atom (c :: s) = (number d.value?, some rest) := by
  simp only [otherStarts, List.mem_cons, not_or] at hc
  simp [atom, hc, hd]

theorem value_of_atom {c : Char} {s : List Char} (fuel : Nat) (hc : c ∉ otherStarts) :
    value (fuel + 1) (c :: s) = atom (c :: s) := by
  simp only [otherStarts, List.mem_cons, not_or] at hc
  have hskip : skip (c :: s) = c :: s := List.dropWhile_cons_of_neg (by simp [isSpace, hc])
  simp [value, hskip, hc]

theorem value_decimal {n : Int} (fuel : Nat) (h : Width.int64.lo ≤ n ∧ n ≤ Width.int64.hi)
    (hrest : EndsNumber rest) :
    value (fuel + 1) (decimal n ++ rest) = (number (some (.int n)), some rest) := by
  obtain ⟨c, s, hs, hstart⟩ := decimal_cons n
  have hc := not_mem_otherStarts hstart
  have hd := numeral?_decimal n hrest
  rw [hs, List.cons_append] at hd ⊢
  rw [value_of_atom _ hc, atom_of_numeral hc hd, value?_decimal h]

/-- **The document of the text of an integer.** -/
theorem ofText_decimal {n : Int} (h : Width.int64.lo ≤ n ∧ n ≤ Width.int64.hi) :
    ofText (decimal n) = (.number (some (.int n)), true) := by
  have hvalue := value_decimal (2 * (decimal n).length + 1) h endsNumber_nil
  rw [List.append_nil] at hvalue
  rw [ofText, hvalue]
  rfl

end Doc

/-- **An integer is read back** from its JSON text. -/
theorem run_int_toText {n : Int} (h : Width.int64.lo ≤ n ∧ n ≤ Width.int64.hi) :
    (Decoder.int .int64).run (int n).toText = .ok n := by
  have htext : (int n).toText.toList = decimal n := String.toList_ofList
  have hint : Decoder.int .int64 maxNesting (.number (some (.int n))) = .ok n := if_pos h
  rw [Decoder.run, htext, Doc.ofText_decimal h, Decoder.finish, hint]
  rfl

end Json

end Forum
