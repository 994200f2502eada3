import Forum.Proofs.Decimal
import Forum.Proofs.Rounding

/-!
# Shortest decimals

The decimal that is printed for a double lies in the interval of the double, and so it is rounded to
that double again.

* `Decimal.value`: the number that a decimal stands for;
* `readsBack_iff`: the points of a grid in the interval of a double;
* `magnitude_spec`, `exists_gridPoint?`: the grid of seventeen digits always has a point there;
* **`nearest_shortest`**: the shortest decimal is in the interval;
* **`ofDecimal_of_nearest`**: a decimal in the interval of a double is rounded to it.
-/

namespace Forum.Binary64

open Text

variable {m c : Nat} {e g : Int}

/-- The number that a decimal stands for. -/
def Decimal.value (d : Decimal) : ℚ := d.digits * 10 ^ d.expo

/-! ## Points of a grid -/

/-- **A point of a grid reads back** as a double if it is in its interval. -/
theorem readsBack_iff (hm : 0 < m) : readsBack m e c g = true ↔ Nearest m e (c * 10 ^ g) := by
  -- all numbers in quarters of the last place
  obtain ⟨below, hbelow⟩ : ∃ n, (if m = fullMant ∧ minExpo < e then 4 * m - 1 else 4 * m - 2) = n :=
    ⟨_, rfl⟩
  have hlower : (below : ℚ) = 4 * lower m e := by
    rw [← hbelow, lower]
    split_ifs
    · rw [Nat.cast_sub (by omega)]
      push_cast
      ring
    · rw [Nat.cast_sub (by omega)]
      push_cast
      ring
  obtain ⟨a, ha⟩ : ∃ n, twoTo (e - 2) * tenTo (-g) = n := ⟨_, rfl⟩
  obtain ⟨b, hb⟩ : ∃ n, twoTo (2 - e) * tenTo g = n := ⟨_, rfl⟩
  have hpos : (0 : ℚ) < a := by
    rw [← ha]
    exact Nat.cast_pos.mpr (Nat.mul_pos (twoTo_pos _) (tenTo_pos _))
  have hquarters : (c * b : ℚ) / a = 4 * ((c * 10 ^ g) / 2 ^ e) := by
    have htwo := twoTo_div (2 - e)
    have hten := tenTo_div g
    rw [neg_sub, zpow_sub₀ two_ne_zero] at htwo
    rw [← ha, ← hb]
    push_cast
    rw [mul_div_assoc, mul_div_mul_comm, htwo, hten]
    norm_num
    ring
  have hle : ∀ n : Nat, n * a ≤ c * b ↔ (n : ℚ) / 4 ≤ (c * 10 ^ g) / 2 ^ e := fun n => by
    rw [← Nat.cast_le (α := ℚ), Nat.cast_mul, Nat.cast_mul, ← le_div_iff₀ hpos, hquarters,
      div_le_iff₀' (by norm_num)]
  have hge : ∀ n : Nat, c * b ≤ n * a ↔ (c * 10 ^ g) / 2 ^ e ≤ (n : ℚ) / 4 := fun n => by
    rw [← Nat.cast_le (α := ℚ), Nat.cast_mul, Nat.cast_mul, ← div_le_iff₀ hpos, hquarters,
      le_div_iff₀' (by norm_num)]
  have hlo : (below : ℚ) / 4 = lower m e := by rw [hlower]; ring
  have hhi : ((4 * m + 2 : Nat) : ℚ) / 4 = m + 1 / 2 := by push_cast; ring
  unfold readsBack Nearest Between
  dsimp only
  rw [hbelow, ha, hb]
  rcases Nat.mod_two_eq_zero_or_one m with heven | hodd
  · simp only [heven, if_true, decide_eq_true_eq, hle, hge, hlo, hhi]
    simp
  · simp only [hodd, one_ne_zero, if_false, decide_eq_true_eq, ← not_le, hle, hge, hlo, hhi]
    simp only [not_le, forall_const]
    grind

theorem readsBack_of_gridPoint? (h : gridPoint? m e g = some c) : readsBack m e c g = true := by
  unfold gridPoint? at h
  dsimp only at h
  generalize m * twoTo e * tenTo (-g) = a at h
  generalize twoTo (-e) * tenTo g = b at h
  split at h
  · next h₁ h₂ =>
    cases h
    rcases roundDiv_eq_or a b with hr | hr
    · rwa [hr]
    · rwa [hr]
  · next h₁ h₂ => cases h; exact h₁
  · next h₁ h₂ => cases h; exact h₂
  · cases h

theorem nearest_of_lt {v : ℚ} (hlo : lower m e < v / 2 ^ e) (hhi : v / 2 ^ e < m + 1 / 2) :
    Nearest m e v := ⟨hlo.le, hhi.le, fun _ => ⟨hlo.ne', hhi.ne⟩⟩

/-- The width of the interval of a double, in units of its last place. -/
def width (m : Nat) (e : Int) : ℚ := m + 1 / 2 - lower m e

theorem lower_lt (m : Nat) (e : Int) : lower m e < m := by
  unfold lower
  split_ifs <;> linarith

/-- A grid finer than the interval of a double has no step over the whole of it: of the two points
around the double one is in it. -/
theorem readsBack_or_next (hm : 0 < m) (h : (10 : ℚ) ^ g < width m e * 2 ^ e)
    (hlo : (c : ℚ) * 10 ^ g ≤ m * 2 ^ e) (hhi : (m : ℚ) * 2 ^ e < (c + 1) * 10 ^ g) :
    readsBack m e c g = true ∨ readsBack m e (c + 1) g = true := by
  have he : (0 : ℚ) < 2 ^ e := by positivity
  have hbefore : (c : ℚ) * 10 ^ g / 2 ^ e ≤ m := (div_le_iff₀ he).mpr hlo
  have hafter : (m : ℚ) < (c + 1 : Nat) * 10 ^ g / 2 ^ e := by
    rw [lt_div_iff₀ he]
    push_cast
    exact hhi
  have hstep : ((c + 1 : Nat) : ℚ) * 10 ^ g / 2 ^ e = c * 10 ^ g / 2 ^ e + 10 ^ g / 2 ^ e := by
    push_cast
    ring
  have hfine : (10 : ℚ) ^ g / 2 ^ e < width m e := (div_lt_iff₀ he).mpr h
  have hlow := lower_lt m e
  unfold width at hfine
  rw [readsBack_iff hm, readsBack_iff hm]
  rcases lt_or_ge (lower m e) (c * 10 ^ g / 2 ^ e) with hin | hout
  · exact .inl (nearest_of_lt hin (by linarith))
  · exact .inr (nearest_of_lt (by linarith) (by linarith))

theorem exists_gridPoint? (hm : 0 < m) (h : (10 : ℚ) ^ g < width m e * 2 ^ e) :
    ∃ c, gridPoint? m e g = some c := by
  have hg : (0 : ℚ) < 10 ^ g := by positivity
  have hden : 0 < twoTo (-e) * tenTo g := Nat.mul_pos (twoTo_pos _) (tenTo_pos _)
  obtain ⟨f, hf, hf₀, hf₁, -⟩ := div_eq_add_rest (m * twoTo e * tenTo (-g)) hden
  generalize hc : m * twoTo e * tenTo (-g) / (twoTo (-e) * tenTo g) = c at hf
  have hdouble : (m : ℚ) * 2 ^ e = (c + f) * 10 ^ g := by
    have htwo := twoTo_div e
    have hten := tenTo_div (-g)
    rw [neg_neg, zpow_neg] at hten
    rw [← hf]
    push_cast
    rw [mul_div_mul_comm, mul_div_assoc, htwo, hten]
    field_simp
  have hread := readsBack_or_next hm h (c := c) (by rw [hdouble]; nlinarith)
    (by rw [hdouble]; nlinarith)
  unfold gridPoint?
  dsimp only
  rw [hc]
  split
  · exact ⟨_, rfl⟩
  · exact ⟨_, rfl⟩
  · exact ⟨_, rfl⟩
  · next h₁ h₂ => simp [h₁, h₂] at hread

/-! ## The shortest decimal -/

theorem range_le : (10 : ℚ) ^ (-330 : Int) ≤ 2 ^ (minExpo - 1) ∧
    (2 : ℚ) ^ (53 + maxExpo) ≤ 10 ^ (309 : Int) := by
  have hsmall : (2 : ℚ) ^ 1075 ≤ 10 ^ 330 := by
    have h : 2 ^ 1075 ≤ 10 ^ 330 := by decide +kernel
    exact_mod_cast h
  have hlarge : (2 : ℚ) ^ 1024 ≤ 10 ^ 309 := by
    have h : 2 ^ 1024 ≤ 10 ^ 309 := by decide +kernel
    exact_mod_cast h
  refine ⟨?_, hlarge⟩
  rw [zpow_neg, show minExpo - 1 = -1075 from rfl, zpow_neg]
  exact inv_anti₀ (by positivity) hsmall

theorem ten_zpow_le (hc : Canonical m e) (hm : 0 < m) : (10 : ℚ) ^ (-400 : Int) ≤ m * 2 ^ e := by
  have hone : (1 : ℚ) ≤ m := by exact_mod_cast hm
  calc (10 : ℚ) ^ (-400 : Int) ≤ 10 ^ (-330 : Int) := zpow_le_zpow_right₀ (by norm_num) (by decide)
    _ ≤ 2 ^ (minExpo - 1) := range_le.1
    _ ≤ 2 ^ e := zpow_le_zpow_right₀ one_le_two (by have := hc.minExpo_le; omega)
    _ ≤ m * 2 ^ e := le_mul_of_one_le_left (by positivity) hone

/-- **The magnitude** of a double is the number of its digits before the decimal point. -/
theorem magnitude_spec (hc : Canonical m e) (hm : 0 < m) :
    (10 : ℚ) ^ (magnitude m e - 1) ≤ m * 2 ^ e ∧ (m : ℚ) * 2 ^ e < 10 ^ magnitude m e := by
  obtain ⟨f, hf, hf₀, hf₁, -⟩ := div_eq_add_rest (m * twoTo e * tenTo 400) (twoTo_pos (-e))
  obtain ⟨n, hn⟩ : ∃ n, m * twoTo e * tenTo 400 / twoTo (-e) = n := ⟨_, rfl⟩
  have hunit : (0 : ℚ) < 10 ^ (-400 : Int) := by positivity
  have hscaled : (m : ℚ) * 2 ^ e = (n + f) * 10 ^ (-400 : Int) := by
    have hten := tenTo_div 400
    have hpos : (tenTo 400 : ℚ) ≠ 0 := Nat.cast_ne_zero.mpr (tenTo_pos 400).ne'
    rw [show tenTo (-400) = 1 from rfl, Nat.cast_one, div_one] at hten
    rw [← hn, ← hf, ← twoTo_div e, zpow_neg, ← hten]
    push_cast
    field_simp
  have hpos : n ≠ 0 := by
    rintro rfl
    have hleast := ten_zpow_le hc hm
    rw [hscaled, Nat.cast_zero, zero_add] at hleast
    exact absurd hleast (not_le.mpr (mul_lt_of_lt_one_left hunit hf₁))
  obtain ⟨k, hk, hlo, hhi⟩ := exists_length_repr hpos
  have hlow : (10 : ℚ) ^ k ≤ n := by exact_mod_cast hlo
  have hhigh : (n : ℚ) + 1 ≤ 10 ^ (k + 1) := by exact_mod_cast hhi
  have hexpo : magnitude m e = ((k + 1 : Nat) : Int) + -400 := by
    rw [magnitude, hn, ← hk, String.length_toList]
    rfl
  have hlast : magnitude m e - 1 = (k : Int) + -400 := by rw [hexpo]; omega
  rw [hlast, hexpo, hscaled, zpow_add₀ (by norm_num), zpow_add₀ (by norm_num), zpow_natCast,
    zpow_natCast]
  exact ⟨mul_le_mul_of_nonneg_right (by linarith) hunit.le,
    mul_lt_mul_of_pos_right (by linarith) hunit⟩

theorem exists_gridPoint?_seventeen (hc : Canonical m e) (hm : 0 < m) :
    ∃ c, gridPoint? m e (magnitude m e - 17) = some c := by
  refine exists_gridPoint? hm ?_
  have hmag := (magnitude_spec hc hm).1
  have he : (0 : ℚ) < 2 ^ e := by positivity
  have hgrid : (10 : ℚ) ^ (magnitude m e - 17) = 10 ^ (magnitude m e - 1) / 10 ^ 16 := by
    rw [show magnitude m e - 17 = magnitude m e - 1 - (16 : Nat) by omega,
      zpow_sub₀ (by norm_num), zpow_natCast]
  have hunits : (m : ℚ) / 10 ^ 16 < width m e := by
    have hmant := hc.add_one_le
    unfold width lower
    split_ifs with h
    · rw [h.1, fullMant_cast]
      norm_num
    · linarith
  rw [hgrid, div_lt_iff₀ (by positivity)]
  rw [div_lt_iff₀ (by positivity)] at hunits
  nlinarith

theorem Decimal.value_strip (fuel : Nat) (d : Decimal) : (strip fuel d).value = d.value := by
  fun_induction strip fuel d with
  | case1 d => rfl
  | case2 fuel d h ih =>
    have hdigits : d.digits = d.digits / 10 * 10 := by omega
    rw [ih, value, value, zpow_add_one₀ (by norm_num)]
    conv_rhs => rw [hdigits]
    push_cast
    ring
  | case3 fuel d h => rfl

/-- **The shortest decimal** of a double is in its interval. -/
theorem nearest_shortest (hc : Canonical m e) (hm : 0 < m) : Nearest m e (shortest m e).value := by
  unfold shortest
  dsimp only
  rw [Decimal.value_strip]
  generalize hhit : List.findSome? _ _ = hit
  cases hit with
  | some d =>
    obtain ⟨n, -, hn⟩ := List.exists_of_findSome?_eq_some hhit
    obtain ⟨c, hgrid, rfl⟩ := Option.map_eq_some_iff.mp hn
    exact (readsBack_iff hm).mp (readsBack_of_gridPoint? hgrid)
  | none =>
    obtain ⟨c, hgrid⟩ := exists_gridPoint?_seventeen hc hm
    have hnone := List.findSome?_eq_none_iff.mp hhit 16 (by decide)
    rw [Option.map_eq_none_iff] at hnone
    exact absurd (hgrid.symm.trans hnone) nofun

/-! ## Decimals near a double -/

theorem Nearest.bounds {v : ℚ} (hc : Canonical m e) (hm : 0 < m) (h : Nearest m e v) :
    (10 : ℚ) ^ (-330 : Int) ≤ v ∧ v < 10 ^ (309 : Int) := by
  have he : (0 : ℚ) < 2 ^ e := by positivity
  have hone : (1 : ℚ) ≤ m := by exact_mod_cast hm
  obtain ⟨hlow, hhigh, -⟩ := h
  rw [le_div_iff₀ he] at hlow
  rw [div_le_iff₀ he] at hhigh
  have hhalf : (1 : ℚ) / 2 ≤ lower m e := by linarith [sub_half_le_lower m e]
  have hmant : (m : ℚ) + 1 / 2 < 2 ^ 53 := by linarith [hc.add_one_le]
  constructor
  · calc (10 : ℚ) ^ (-330 : Int) ≤ 2 ^ (minExpo - 1) := range_le.1
      _ ≤ 2 ^ (e - 1) := zpow_le_zpow_right₀ one_le_two (by have := hc.minExpo_le; omega)
      _ = 1 / 2 * 2 ^ e := by rw [zpow_sub_one₀ two_ne_zero]; ring
      _ ≤ lower m e * 2 ^ e := mul_le_mul_of_nonneg_right hhalf he.le
      _ ≤ v := hlow
  · calc v ≤ (m + 1 / 2) * 2 ^ e := hhigh
      _ < 2 ^ 53 * 2 ^ e := mul_lt_mul_of_pos_right hmant he
      _ = 2 ^ (53 + e) := by rw [zpow_add₀ two_ne_zero]; rfl
      _ ≤ 2 ^ (53 + maxExpo) := zpow_le_zpow_right₀ one_le_two (by have := hc.expo_le; omega)
      _ ≤ 10 ^ (309 : Int) := range_le.2

/-- **A decimal in the interval of a double is rounded to it**, whatever zeros it has at its end. -/
theorem ofDecimal_of_nearest (neg : Bool) {digits : Nat} {expo : Int} (hc : Canonical m e)
    (hm : 0 < m) (h : Nearest m e (digits * 10 ^ expo)) :
    ofDecimal neg digits expo = finite neg m e := by
  have hpos : digits ≠ 0 := by
    rintro rfl
    have hv := h.pos hm
    simp at hv
  obtain ⟨k, hk, hlo, hhi⟩ := exists_length_repr hpos
  have hsize : (digits.repr.length : Int) + expo = k + 1 + expo := by
    rw [← String.length_toList, hk]
    rfl
  obtain ⟨hsmall, hlarge⟩ := h.bounds hc hm
  have hpow : (0 : ℚ) < 10 ^ expo := by positivity
  have hbelow : (-330 : Int) < k + 1 + expo := by
    have hdigits : (digits : ℚ) < 10 ^ (k + 1) := by exact_mod_cast hhi
    refine (zpow_lt_zpow_iff_right₀ (by norm_num : (1 : ℚ) < 10)).mp (hsmall.trans_lt ?_)
    rw [zpow_add₀ (by norm_num)]
    exact mul_lt_mul_of_pos_right (by exact_mod_cast hdigits) hpow
  have habove : (k : Int) + expo < 309 := by
    have hdigits : (10 : ℚ) ^ k ≤ digits := by exact_mod_cast hlo
    refine (zpow_lt_zpow_iff_right₀ (by norm_num : (1 : ℚ) < 10)).mp (hlarge.trans_le' ?_)
    rw [zpow_add₀ (by norm_num), zpow_natCast]
    exact mul_le_mul_of_nonneg_right hdigits hpow.le
  have hratio : ((digits * tenTo expo : Nat) : ℚ) / tenTo (-expo) = digits * 10 ^ expo := by
    rw [← tenTo_div expo]
    push_cast
    ring
  unfold ofDecimal
  dsimp only
  rw [hsize, if_neg (by omega), if_neg (by omega)]
  exact ofRatio_of_nearest neg hc hm (tenTo_pos _) (by rwa [hratio])

theorem isCanonical_ofDecimal (neg : Bool) (digits : Nat) (expo : Int) :
    (ofDecimal neg digits expo).IsCanonical := by
  unfold ofDecimal
  dsimp only
  split_ifs
  · exact isCanonical_zero neg
  · exact trivial
  · exact isCanonical_ofRatio neg _ (tenTo_pos _)

end Forum.Binary64
