import Forum.Binary64.Reading
import Forum.Proofs.ShortestDecimals
import Forum.Proofs.Spelling

/-!
# Doubles in plain text

The plain text of a double is read back as that double. Where it has no point it is the text of an
integer too.

* `unsigned?_whole`, `unsigned?_point`: digits without a point, and with one;
* `positional_of_nonneg`, `positional_of_neg`: the two kinds of texts of a decimal;
* **`read_plain`**: a double is read back from its plain text;
* **`isCanonical_of_read`**: what is read is a double;
* **`decimal_of_read_plain`**: an integer that the plain text spells is printed as that text.
-/

namespace Forum

namespace Text

theorem lowerAscii_of_isDigit {c : Char} (h : c.isDigit = true) : lowerAscii c = c := by
  refine lowerAscii_of_not fun hcapital => ?_
  obtain ⟨n, hn, rfl⟩ := exists_capital hcapital
  revert n
  decide

theorem readNat_of_mem {s : List Char} {c : Char} (hc : c ∈ s) (h : c.isDigit = false) :
    readNat s = none := by
  have hall : s.all Char.isDigit = false := List.all_eq_false.mpr ⟨c, hc, by simp [h]⟩
  rw [readNat, hall, Bool.and_false]
  rfl

end Text

namespace Binary64

open Text

variable {neg : Bool} {m : Nat} {e : Int} {x : Binary64} {s : List Char}

/-! ## Digits -/

theorem not_name_of_digit {c : Char} (hc : c.isDigit = true) :
    ¬(String.ofList ((c :: s).map lowerAscii) = "inf" ∨
        String.ofList ((c :: s).map lowerAscii) = "infinity") ∧
      String.ofList ((c :: s).map lowerAscii) ≠ "nan" := by
  have hname : ∀ (d : Char) (t : List Char), d.isDigit = false →
      String.ofList ((c :: s).map lowerAscii) ≠ String.ofList (d :: t) := by
    intro d t hd h
    have hhead : lowerAscii c = d := (List.cons.inj (String.ofList_injective h)).1
    rw [lowerAscii_of_isDigit hc] at hhead
    rw [← hhead, hc] at hd
    cases hd
  exact ⟨not_or.mpr ⟨hname 'i' "nf".toList rfl, hname 'i' "nfinity".toList rfl⟩,
    hname 'n' "an".toList rfl⟩

theorem unsigned?_whole (neg : Bool) (hne : s ≠ []) (hs : ∀ c ∈ s, c.isDigit = true) :
    unsigned? neg s = some (ofDecimal neg (digitsValue s) 0) := by
  obtain ⟨c, t, rfl⟩ := List.exists_cons_of_ne_nil hne
  obtain ⟨hinf, hnan⟩ := not_name_of_digit (s := t) (hs c List.mem_cons_self)
  obtain ⟨htake, hdrop⟩ : (c :: t).takeWhile Char.isDigit = c :: t ∧
      (c :: t).dropWhile Char.isDigit = [] :=
    takeWhile_dropWhile_iff.mpr ⟨(List.append_nil _).symm, hs, nofun⟩
  unfold unsigned?
  dsimp only
  rw [if_neg hinf, if_neg hnan, htake, hdrop]
  simp [exponent?]

theorem unsigned?_point (neg : Bool) {t : List Char} (hne : s ≠ [])
    (hs : ∀ c ∈ s, c.isDigit = true) (ht : ∀ c ∈ t, c.isDigit = true) :
    unsigned? neg (s ++ '.' :: t) = some (ofDecimal neg (digitsValue (s ++ t)) (-t.length)) := by
  have hpoint : ∀ d ∈ ('.' :: t).head?, d.isDigit = false := fun d hd => by cases hd; decide
  obtain ⟨htake, hdrop⟩ : (s ++ '.' :: t).takeWhile Char.isDigit = s ∧
      (s ++ '.' :: t).dropWhile Char.isDigit = '.' :: t :=
    takeWhile_dropWhile_iff.mpr ⟨rfl, hs, hpoint⟩
  obtain ⟨htake', hdrop'⟩ : t.takeWhile Char.isDigit = t ∧ t.dropWhile Char.isDigit = [] :=
    takeWhile_dropWhile_iff.mpr ⟨(List.append_nil _).symm, ht, nofun⟩
  obtain ⟨c, r, rfl⟩ := List.exists_cons_of_ne_nil hne
  obtain ⟨hinf, hnan⟩ := not_name_of_digit (s := r ++ '.' :: t) (hs c List.mem_cons_self)
  rw [List.cons_append] at htake hdrop ⊢
  unfold unsigned?
  dsimp only
  rw [if_neg hinf, if_neg hnan, htake, hdrop]
  simp [exponent?, htake', hdrop']

/-! ## The text of a decimal -/

theorem positional_of_nonneg {d : Decimal} (hd : d.digits ≠ 0) (h : 0 ≤ d.expo) :
    positional [] d = (d.digits * 10 ^ d.expo.toNat).repr.toList := by
  unfold positional
  dsimp only
  rw [if_pos h, List.append_nil, repr_mul_pow hd]

theorem positional_of_neg {d : Decimal} (h : d.expo < 0) :
    ∃ s t : List Char, positional [] d = s ++ '.' :: t ∧ s ≠ [] ∧
      (∀ c ∈ s ++ t, c.isDigit = true) ∧ digitsValue (s ++ t) = d.digits ∧
      -(t.length : Int) = d.expo := by
  unfold positional
  dsimp only
  rw [if_neg (by omega)]
  generalize hk : (d.digits.repr.toList.length : Int) + d.expo = k
  split_ifs with hpos
  · refine ⟨_, _, rfl, ?_, ?_, ?_, ?_⟩
    · rw [ne_eq, List.take_eq_nil_iff, not_or]
      exact ⟨by omega, repr_ne_nil _⟩
    · rw [List.take_append_drop]
      exact fun c => isDigit_of_mem_repr
    · rw [List.take_append_drop, digitsValue_repr]
    · rw [List.length_drop]
      omega
  · refine ⟨['0'], _, rfl, List.cons_ne_nil _ _, ?_, ?_, ?_⟩
    · exact fun c => isDigit_of_mem_zeros (k := (-k).toNat + 1) (n := d.digits)
    · exact digitsValue_zeros ((-k).toNat + 1) d.digits
    · rw [List.length_append, List.length_replicate]
      omega

/-! ## The text of a double -/

theorem read_signed {c : Char} (neg : Bool) (hc : c.isDigit = true) :
    read (signed neg (c :: s)) = unsigned? neg (c :: s) := by
  cases neg with
  | true => rfl
  | false =>
    have hminus : c ≠ '-' := by rintro rfl; exact absurd hc (by decide)
    have hplus : c ≠ '+' := by rintro rfl; exact absurd hc (by decide)
    simp [signed, read, hminus, hplus]

theorem expo_of_zero (h : Canonical 0 e) : e = minExpo := h.full_or_least.resolve_left (by decide)

theorem digits_shortest_ne_zero (hc : Canonical m e) (hm : 0 < m) : (shortest m e).digits ≠ 0 := by
  intro h
  have hpos := (nearest_shortest hc hm).pos hm
  rw [Decimal.value, h, Nat.cast_zero, zero_mul] at hpos
  exact lt_irrefl _ hpos

theorem read_positional (neg : Bool) (hc : Canonical m e) (hm : 0 < m) :
    read (signed neg (positional [] (shortest m e))) = some (finite neg m e) := by
  have hnear := nearest_shortest hc hm
  have hdigits := digits_shortest_ne_zero hc hm
  generalize shortest m e = d at *
  rcases lt_or_ge d.expo 0 with hneg | hpos
  · obtain ⟨s, t, htext, hne, hall, hvalue, hplaces⟩ := positional_of_neg hneg
    obtain ⟨hs, ht⟩ := List.forall_mem_append.mp hall
    have hread : unsigned? neg (s ++ '.' :: t) = some (finite neg m e) := by
      rw [unsigned?_point neg hne hs ht, hvalue, hplaces, ofDecimal_of_nearest neg hc hm hnear]
    obtain ⟨c, r, rfl⟩ := List.exists_cons_of_ne_nil hne
    rw [htext, List.cons_append, read_signed neg (hs c List.mem_cons_self)]
    exact hread
  · obtain ⟨k, hk⟩ := Int.eq_ofNat_of_zero_le hpos
    have hinteger : Nearest m e ((d.digits * 10 ^ k : Nat) * 10 ^ (0 : Int)) := by
      rw [Decimal.value, hk] at hnear
      simpa using hnear
    rw [positional_of_nonneg hdigits hpos, hk, Int.toNat_natCast]
    generalize d.digits * 10 ^ k = n at *
    have hread : unsigned? neg n.repr.toList = some (finite neg m e) := by
      rw [unsigned?_whole neg (repr_ne_nil n) fun _ => isDigit_of_mem_repr, digitsValue_repr,
        ofDecimal_of_nearest neg hc hm hinteger]
    obtain ⟨c, r, hcons⟩ := List.exists_cons_of_ne_nil (repr_ne_nil n)
    rw [hcons] at hread ⊢
    rw [read_signed neg (isDigit_of_mem_repr (hcons ▸ List.mem_cons_self))]
    exact hread

/-- **A double is read back** from its plain text. -/
theorem read_plain (h : x.IsCanonical) : read x.plain = some x := by
  cases x with
  | nan => decide
  | infinite neg => cases neg <;> decide
  | finite neg m e =>
    rcases Nat.eq_zero_or_pos m with rfl | hm
    · rw [expo_of_zero h]
      cases neg <;> decide
    · rw [plain, if_neg hm.ne']
      exact read_positional neg h hm

theorem positional_cons (hc : Canonical m e) (hm : 0 < m) :
    ∃ c t, positional [] (shortest m e) = c :: t ∧ c.isDigit = true := by
  have hdigits := digits_shortest_ne_zero hc hm
  generalize shortest m e = d at *
  rcases lt_or_ge d.expo 0 with hneg | hpos
  · obtain ⟨s, t, htext, hne, hall, -, -⟩ := positional_of_neg hneg
    obtain ⟨c, r, rfl⟩ := List.exists_cons_of_ne_nil hne
    exact ⟨c, r ++ '.' :: t, htext, hall c (List.mem_append_left t List.mem_cons_self)⟩
  · obtain ⟨c, r, hcons⟩ := List.exists_cons_of_ne_nil (repr_ne_nil (d.digits * 10 ^ d.expo.toNat))
    rw [positional_of_nonneg hdigits hpos]
    exact ⟨c, r, hcons, isDigit_of_mem_repr (hcons ▸ List.mem_cons_self)⟩

theorem plain_cons (h : x.IsCanonical) :
    ∃ c t, x.plain = c :: t ∧ (c ∈ ['-', 'i', 'N'] ∨ c.isDigit = true) := by
  cases x with
  | nan => exact ⟨_, _, rfl, .inl (by decide)⟩
  | infinite neg => cases neg <;> exact ⟨_, _, rfl, .inl (by decide)⟩
  | finite neg m e =>
    cases neg with
    | true => exact ⟨_, _, rfl, .inl (by decide)⟩
    | false =>
      rcases Nat.eq_zero_or_pos m with rfl | hm
      · exact ⟨_, _, rfl, .inr (by decide)⟩
      · obtain ⟨c, t, htext, hc⟩ := positional_cons h hm
        exact ⟨c, t, by rw [plain, if_neg hm.ne', htext]; rfl, .inr hc⟩

theorem isCanonical_of_unsigned? (h : unsigned? neg s = some x) : x.IsCanonical := by
  unfold unsigned? at h
  dsimp only at h
  split_ifs at h
  · cases h; trivial
  · cases h; trivial
  · obtain ⟨_, -, rfl⟩ := Option.map_eq_some_iff.mp h
    exact isCanonical_ofDecimal _ _ _

/-- **What is read is a double.** -/
theorem isCanonical_of_read (h : read s = some x) : x.IsCanonical := by
  unfold read at h
  split at h <;> exact isCanonical_of_unsigned? h

/-! ## Integers -/

theorem read_point (neg : Bool) {t : List Char} (hne : s ≠ []) (hs : ∀ c ∈ s, c.isDigit = true) :
    Width.int64.read (signed neg (s ++ '.' :: t)) = none := by
  have hnone : readNat (s ++ '.' :: t) = none :=
    readNat_of_mem (List.mem_append_right s List.mem_cons_self) (by decide)
  obtain ⟨c, r, rfl⟩ := List.exists_cons_of_ne_nil hne
  have hc : c.isDigit = true := hs c List.mem_cons_self
  cases neg with
  | true => simp only [signed, if_true, Width.read, hnone, Option.bind_none, ite_self]
  | false =>
    rw [signed, if_neg Bool.false_ne_true, List.cons_append] at *
    unfold Width.read
    split
    · next heq => cases heq; exact absurd hc (by decide)
    · next heq => cases heq; exact absurd hc (by decide)
    · rw [hnone]
      rfl

theorem decimal_of_read_signed {k : Nat} {n : Int} (hk : k ≠ 0)
    (hn : Width.int64.read (signed neg k.repr.toList) = some n) :
    decimal n = signed neg k.repr.toList := by
  have hdigits : ∀ c ∈ k.repr.toList, c.isDigit = true := fun _ => isDigit_of_mem_repr
  cases neg with
  | true =>
    rw [signed, if_pos rfl] at hn ⊢
    rw [Width.read_minus (by decide) (repr_ne_nil k) hdigits, digitsValue_repr] at hn
    obtain ⟨rfl, -⟩ := Width.fit_eq_some_iff.mp hn
    rw [decimal_of_neg (by omega), Int.natAbs_neg, Int.natAbs_natCast]
  | false =>
    rw [signed, if_neg Bool.false_ne_true] at hn ⊢
    rw [Width.read_digits (repr_ne_nil k) hdigits, digitsValue_repr] at hn
    obtain ⟨rfl, -⟩ := Width.fit_eq_some_iff.mp hn
    rw [decimal_of_nonneg (by omega), Int.natAbs_natCast]

/-- **An integer that the plain text of a double spells** is printed as that text, unless the text
is that of the zero below zero. -/
theorem decimal_of_read_plain {n : Int} (h : x.IsCanonical) (hx : x ≠ zero true)
    (hn : Width.int64.read x.plain = some n) : decimal n = x.plain := by
  have hnone : ∀ t : List Char, Width.int64.read t = none → t ≠ x.plain := by
    rintro t ht rfl
    rw [ht] at hn
    cases hn
  cases x with
  | nan => exact absurd rfl (hnone _ (by decide))
  | infinite neg => cases neg <;> exact absurd rfl (hnone _ (by decide))
  | finite neg m e =>
    rcases Nat.eq_zero_or_pos m with rfl | hm
    · rw [expo_of_zero h] at hx hn ⊢
      cases neg with
      | true => exact absurd rfl hx
      | false =>
        have hzero : Width.int64.read (finite false 0 minExpo).plain = some 0 := by decide
        cases hzero.symm.trans hn
        decide
    · rw [plain, if_neg hm.ne'] at hn ⊢
      have hdigits := digits_shortest_ne_zero h hm
      generalize shortest m e = d at *
      rcases lt_or_ge d.expo 0 with hneg | hpos
      · obtain ⟨s, t, htext, hne, hall, -, -⟩ := positional_of_neg hneg
        rw [htext, read_point neg hne (List.forall_mem_append.mp hall).1] at hn
        cases hn
      · rw [positional_of_nonneg hdigits hpos] at hn ⊢
        have hten : 0 < 10 ^ d.expo.toNat := Nat.pow_pos (by decide)
        exact decimal_of_read_signed (Nat.mul_ne_zero hdigits hten.ne') hn

end Binary64

end Forum
