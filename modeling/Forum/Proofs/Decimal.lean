import Forum.Text.Integer
import Mathlib.Data.List.Induction
import Mathlib.Data.Nat.Digits.Defs

/-!
# Decimal texts

* `readNat_digits`, `Width.read_digits`, `Width.read_minus`: digits are read, with a sign or none;
* `digitsValue_inj`: digits of one length differ as their values do;
* `exists_length_repr`: how many digits a number has;
* `Width.bounds_of_read`: what is read is in range;
* **`Width.read_decimal`**: an integer in range is read back from its decimal text;
* `repr_ne_zero_cons`, `repr_mul_pow`: the zeros at the start of a number, and at its end;
* `isDigit_of_mem_padded`, `length_padded_le`, **`padded_injective`**: numbers with zeros in front.
-/

namespace Forum.Text

theorem isDigit_of_mem_repr {n : Nat} {c : Char} (h : c ∈ n.repr.toList) : c.isDigit = true := by
  rw [Nat.toList_repr] at h
  exact Nat.isDigit_of_mem_toDigits (by decide) (by decide) h

theorem repr_ne_nil (n : Nat) : n.repr.toList ≠ [] := by
  rw [Nat.toList_repr]
  exact Nat.toDigits_ne_nil

theorem digitsValue_repr (n : Nat) : digitsValue n.repr.toList = n := by
  rw [Nat.toList_repr]
  exact Nat.ofDigitChars_toDigits (b := 10) (by decide) (by decide)

theorem readNat_digits {s : List Char} (hne : s ≠ []) (hdigits : ∀ c ∈ s, c.isDigit = true) :
    readNat s = some (digitsValue s) := by
  have hall : s.all Char.isDigit = true := List.all_eq_true.mpr hdigits
  rw [readNat, hall, List.isEmpty_eq_false_iff.mpr hne]
  rfl

theorem isDigit_iff {c : Char} : c.isDigit = true ↔ 48 ≤ c.toNat ∧ c.toNat ≤ 57 := by
  rw [Char.isDigit, Bool.and_eq_true, decide_eq_true_iff, decide_eq_true_iff]
  exact Iff.rfl

theorem digitValue_inj {c d : Char} (hc : c.isDigit = true) (hd : d.isDigit = true)
    (h : digitValue c = digitValue d) : c = d := by
  have hzero : '0'.toNat = 48 := rfl
  rw [isDigit_iff] at hc hd
  rw [digitValue, digitValue, hzero] at h
  exact Char.toNat_inj.mp (by omega)

theorem digitValue_lt {c : Char} (h : c.isDigit = true) : digitValue c < 10 := by
  have hzero : '0'.toNat = 48 := rfl
  rw [isDigit_iff] at h
  rw [digitValue, hzero]
  omega

theorem digitsValue_concat (s : List Char) (c : Char) :
    digitsValue (s ++ [c]) = 10 * digitsValue s + digitValue c := by
  rw [digitsValue, List.foldl_append]
  rfl

theorem digitsValue_inj {s t : List Char} (hs : ∀ c ∈ s, c.isDigit = true)
    (ht : ∀ c ∈ t, c.isDigit = true) (hlen : s.length = t.length)
    (h : digitsValue s = digitsValue t) : s = t := by
  induction s using List.reverseRecOn generalizing t with
  | nil => exact (List.length_eq_zero_iff.mp hlen.symm).symm
  | append_singleton s c ih =>
    obtain rfl | ⟨t, d, rfl⟩ := List.eq_nil_or_concat t
    · simp at hlen
    rw [List.concat_eq_append] at ht hlen h ⊢
    obtain ⟨hs, hc⟩ := List.forall_mem_append.mp hs
    obtain ⟨ht, hd⟩ := List.forall_mem_append.mp ht
    have hc := hc c List.mem_cons_self
    have hd := hd d List.mem_cons_self
    rw [digitsValue_concat, digitsValue_concat] at h
    have hclt := digitValue_lt hc
    have hdlt := digitValue_lt hd
    have hlast : c = d := digitValue_inj hc hd (by omega)
    have hinit : s = t := ih hs ht (by simpa using hlen) (by omega)
    rw [hinit, hlast]

theorem digitsValue_lt {s : List Char} (h : ∀ c ∈ s, c.isDigit = true) :
    digitsValue s < 10 ^ s.length := by
  induction s using List.reverseRecOn with
  | nil => decide
  | append_singleton s c ih =>
    obtain ⟨hs, hc⟩ := List.forall_mem_append.mp h
    have hinit := ih hs
    have hlast := digitValue_lt (hc c List.mem_cons_self)
    rw [digitsValue_concat, List.length_append, List.length_singleton, pow_succ]
    omega

theorem exists_length_repr {n : Nat} (h : n ≠ 0) :
    ∃ k, n.repr.toList.length = k + 1 ∧ 10 ^ k ≤ n ∧ n < 10 ^ (k + 1) := by
  obtain ⟨k, hk⟩ : ∃ k, n.repr.toList.length = k + 1 :=
    Nat.exists_eq_add_one_of_ne_zero (List.length_pos_iff.mpr (repr_ne_nil n)).ne'
  have hlt : digitsValue n.repr.toList < 10 ^ n.repr.toList.length :=
    digitsValue_lt fun _ => isDigit_of_mem_repr
  rw [digitsValue_repr, hk] at hlt
  refine ⟨k, hk, ?_, hlt⟩
  by_contra hsmall
  rcases Nat.eq_zero_or_pos k with rfl | hpos
  · omega
  · have hlen : n.repr.toList.length ≤ k := Nat.repr_length _ _ hpos (Nat.lt_of_not_le hsmall)
    omega

theorem length_repr_eq {n k : Nat} (hlo : 10 ^ k ≤ n) (hhi : n < 10 ^ (k + 1)) :
    n.repr.toList.length = k + 1 := by
  have hpos : n ≠ 0 := ((Nat.pow_pos (by decide)).trans_le hlo).ne'
  obtain ⟨j, hj, hlo', hhi'⟩ := exists_length_repr hpos
  have hle := (Nat.pow_lt_pow_iff_right (by decide)).mp (hlo.trans_lt hhi')
  have hge := (Nat.pow_lt_pow_iff_right (by decide)).mp (hlo'.trans_lt hhi)
  omega

theorem decimal_of_nonneg {n : Int} (h : 0 ≤ n) : decimal n = n.natAbs.repr.toList := by
  have habs : n.toNat = n.natAbs := by omega
  rw [decimal, Int.repr_eq_if, if_pos h, habs]

theorem decimal_of_neg {n : Int} (h : n < 0) : decimal n = '-' :: n.natAbs.repr.toList := by
  have habs : (-n).toNat = n.natAbs := by omega
  rw [decimal, Int.repr_eq_if, if_neg (by omega), habs, String.toList_append]
  rfl

theorem decimal_cons (n : Int) : ∃ c s, decimal n = c :: s ∧ (c = '-' ∨ c.isDigit = true) := by
  rcases Int.lt_or_le n 0 with hn | hn
  · exact ⟨_, _, decimal_of_neg hn, .inl rfl⟩
  · obtain ⟨c, s, hs⟩ := List.exists_cons_of_ne_nil (repr_ne_nil n.natAbs)
    have hc : c.isDigit = true := isDigit_of_mem_repr (hs ▸ List.mem_cons_self)
    exact ⟨c, s, (decimal_of_nonneg hn).trans hs, .inr hc⟩

namespace Width

variable {w : Width} {n : Int}

theorem fit_of_bounds (h : w.lo ≤ n ∧ n ≤ w.hi) : w.fit n = some n := if_pos h

theorem read_digits {s : List Char} (hne : s ≠ []) (hdigits : ∀ c ∈ s, c.isDigit = true) :
    w.read s = w.fit (digitsValue s) := by
  obtain ⟨c, t, rfl⟩ := List.exists_cons_of_ne_nil hne
  have hc : c.isDigit = true := hdigits c List.mem_cons_self
  have hread := readNat_digits hne hdigits
  unfold read
  split
  · next heq =>
    cases heq
    exact absurd hc (by decide)
  · next heq =>
    cases heq
    exact absurd hc (by decide)
  · rw [hread]
    rfl

theorem read_minus {s : List Char} (hlo : w.lo < 0) (hne : s ≠ [])
    (hdigits : ∀ c ∈ s, c.isDigit = true) : w.read ('-' :: s) = w.fit (-digitsValue s) := by
  change (if w.lo < 0 then (readNat s).bind fun k => w.fit (-k) else none) = _
  rw [if_pos hlo, readNat_digits hne hdigits, Option.bind_some]

theorem fit_eq_some_iff {k : Int} : w.fit n = some k ↔ k = n ∧ w.lo ≤ k ∧ k ≤ w.hi := by
  constructor
  · intro h
    have hbounds := fit_eq_some h
    unfold fit at h
    split at h
    · cases h
      exact ⟨rfl, hbounds⟩
    · cases h
  · rintro ⟨rfl, h⟩
    exact fit_of_bounds h

theorem bounds_of_read {s : List Char} (h : w.read s = some n) : w.lo ≤ n ∧ n ≤ w.hi := by
  have fits : ∀ (f : Nat → Int) (o : Option Nat),
      (o.bind fun k => w.fit (f k)) = some n → w.lo ≤ n ∧ n ≤ w.hi := by
    intro f o ho
    obtain ⟨k, -, hk⟩ := Option.bind_eq_some_iff.mp ho
    exact fit_eq_some hk
  unfold read at h
  split at h
  · exact fits _ _ h
  · split at h
    · exact fits (fun k => -k) _ h
    · cases h
  · exact fits _ _ h

/-- **An integer in range is read back** from its decimal text. -/
theorem read_decimal (h : w.lo ≤ n ∧ n ≤ w.hi) : w.read (decimal n) = some n := by
  rcases Int.lt_or_le n 0 with hn | hn
  · have hneg : -(n.natAbs : Int) = n := by omega
    rw [decimal_of_neg hn, read_minus (by omega) (repr_ne_nil _) fun _ => isDigit_of_mem_repr,
      digitsValue_repr, hneg, fit_of_bounds h]
  · have hpos : (n.natAbs : Int) = n := by omega
    rw [decimal_of_nonneg hn, read_digits (repr_ne_nil _) fun _ => isDigit_of_mem_repr,
      digitsValue_repr, hpos, fit_of_bounds h]

end Width

/-! ## Zeros in front -/

theorem digitsValue_replicate_append (k : Nat) (s : List Char) :
    digitsValue (List.replicate k '0' ++ s) = digitsValue s := by
  induction k with
  | zero => rfl
  | succ k ih => rw [← ih]; rfl

theorem repr_ne_zero_cons (n : Nat) (c : Char) (s : List Char) :
    n.repr.toList ≠ '0' :: c :: s := by
  intro h
  have hdigits : ∀ d ∈ c :: s, d.isDigit = true := fun d hd =>
    isDigit_of_mem_repr (h ▸ List.mem_cons_of_mem '0' hd)
  have hvalue : digitsValue (c :: s) = n := by
    have hzeros := digitsValue_replicate_append 1 (c :: s)
    rw [← hzeros, ← digitsValue_repr n, h]
    rfl
  have hlt : n < 10 ^ (c :: s).length := hvalue ▸ digitsValue_lt hdigits
  have hlen : n.repr.toList.length ≤ (c :: s).length := Nat.repr_length _ _ (by simp) hlt
  rw [h] at hlen
  simp at hlen

theorem digitsValue_append_replicate (s : List Char) (k : Nat) :
    digitsValue (s ++ List.replicate k '0') = digitsValue s * 10 ^ k := by
  induction k with
  | zero => simp
  | succ k ih =>
    rw [List.replicate_succ', ← List.append_assoc, digitsValue_concat, ih, pow_succ]
    have hzero : digitValue '0' = 0 := rfl
    rw [hzero]
    ring

/-- **Zeros after a number** are those of the powers of ten in it. -/
theorem repr_mul_pow {n : Nat} (h : n ≠ 0) (k : Nat) :
    (n * 10 ^ k).repr.toList = n.repr.toList ++ List.replicate k '0' := by
  have hdigits : ∀ c ∈ n.repr.toList ++ List.replicate k '0', c.isDigit = true := fun c hc => by
    rcases List.mem_append.mp hc with hc | hc
    · exact isDigit_of_mem_repr hc
    · rw [List.eq_of_mem_replicate hc]
      decide
  refine digitsValue_inj (fun _ => isDigit_of_mem_repr) hdigits ?_ ?_
  · obtain ⟨j, hj, hlow, hhigh⟩ := exists_length_repr h
    rw [List.length_append, List.length_replicate, hj, Nat.add_right_comm]
    refine length_repr_eq ?_ ?_
    · rw [pow_add]
      exact Nat.mul_le_mul_right _ hlow
    · rw [Nat.add_right_comm, pow_add]
      exact Nat.mul_lt_mul_of_pos_right hhigh (Nat.pow_pos (by decide))
  · rw [digitsValue_append_replicate, digitsValue_repr, digitsValue_repr]

theorem isDigit_of_mem_zeros {k n : Nat} {c : Char}
    (h : c ∈ List.replicate k '0' ++ n.repr.toList) : c.isDigit = true := by
  rcases List.mem_append.mp h with h | h
  · rw [List.eq_of_mem_replicate h]
    decide
  · exact isDigit_of_mem_repr h

theorem digitsValue_zeros (k n : Nat) :
    digitsValue (List.replicate k '0' ++ n.repr.toList) = n := by
  rw [digitsValue_replicate_append, digitsValue_repr]

theorem padded_of_nonneg {width : Nat} {n : Int} (h : 0 ≤ n) : padded width n =
    List.replicate (width - n.natAbs.repr.toList.length) '0' ++ n.natAbs.repr.toList :=
  if_neg (by omega)

theorem padded_of_neg {width : Nat} {n : Int} (h : n < 0) : padded width n =
    '-' :: (List.replicate (width - 1 - n.natAbs.repr.toList.length) '0' ++
      n.natAbs.repr.toList) := if_pos h

theorem isDigit_of_mem_padded {width : Nat} {n : Int} {c : Char} (h : 0 ≤ n)
    (hc : c ∈ padded width n) : c.isDigit = true := by
  rw [padded_of_nonneg h] at hc
  exact isDigit_of_mem_zeros hc

theorem padded_ne_nil (width : Nat) (n : Int) : padded width n ≠ [] := by
  rcases Int.lt_or_le n 0 with h | h
  · rw [padded_of_neg h]
    exact List.cons_ne_nil _ _
  · rw [padded_of_nonneg h]
    exact List.append_ne_nil_of_right_ne_nil _ (repr_ne_nil _)

theorem length_padded_le {width k : Nat} {n : Int} (hk : 0 < k) (h : 0 ≤ n)
    (hn : n.natAbs < 10 ^ k) : (padded width n).length ≤ max width k := by
  have hlen : n.natAbs.repr.toList.length ≤ k := Nat.repr_length _ _ hk hn
  rw [padded_of_nonneg h, List.length_append, List.length_replicate]
  omega

/-- **Numbers with zeros in front differ** as the numbers do. -/
theorem padded_injective (width : Nat) : Function.Injective (padded width) := by
  -- The sign shows: a digit is no minus.
  have sign : ∀ m n : Int, 0 ≤ m → n < 0 → padded width m ≠ padded width n := by
    intro m n hm hn h
    have hminus : '-' ∈ padded width m := by
      rw [h, padded_of_neg hn]
      exact List.mem_cons_self
    exact absurd (isDigit_of_mem_padded hm hminus) (by decide)
  intro m n h
  rcases Int.lt_or_le m 0 with hm | hm <;> rcases Int.lt_or_le n 0 with hn | hn
  · rw [padded_of_neg hm, padded_of_neg hn] at h
    have habs := congrArg digitsValue (List.cons.inj h).2
    rw [digitsValue_zeros, digitsValue_zeros] at habs
    omega
  · exact absurd h.symm (sign n m hn hm)
  · exact absurd h (sign m n hm hn)
  · rw [padded_of_nonneg hm, padded_of_nonneg hn] at h
    have habs := congrArg digitsValue h
    rw [digitsValue_zeros, digitsValue_zeros] at habs
    omega

end Forum.Text
