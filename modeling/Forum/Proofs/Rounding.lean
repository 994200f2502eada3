import Forum.Binary64
import Mathlib.Algebra.Order.Field.Power
import Mathlib.Data.Rat.Cast.Order
import Mathlib.Tactic.FieldSimp
import Mathlib.Tactic.Linarith
import Mathlib.Tactic.NormNum
import Mathlib.Tactic.Positivity
import Mathlib.Tactic.Ring

/-!
# Rounding to doubles

The numbers that are nearest to a double are those of an interval around it, with its ends if the
significand is even. Rounding finds the double of every number in the interval.

* `Canonical`: the significands and exponents of doubles;
* `Nearest`: the interval of a double;
* `roundDiv_eq`, `ratioExpo_spec`: the nearest integer, and the exponent of a quotient;
* **`ofRatio_of_nearest`**: a number in the interval of a double is rounded to it;
* **`isCanonical_ofRatio`**: what is rounded is a double.
-/

namespace Forum.Binary64

variable {num den m : Nat} {e : Int}

/-! ## Powers -/

theorem pow_toNat_div {b : ℚ} (hb : b ≠ 0) (k : Int) : b ^ k.toNat / b ^ (-k).toNat = b ^ k := by
  have hsplit : k = (k.toNat : Int) - ((-k).toNat : Int) := by omega
  conv_rhs => rw [hsplit, zpow_sub₀ hb, zpow_natCast, zpow_natCast]

theorem twoTo_div (k : Int) : (twoTo k : ℚ) / twoTo (-k) = 2 ^ k := by
  unfold twoTo
  push_cast [Nat.pow_eq]
  exact pow_toNat_div two_ne_zero k

theorem tenTo_div (k : Int) : (tenTo k : ℚ) / tenTo (-k) = 10 ^ k := by
  unfold tenTo
  push_cast [Nat.pow_eq]
  exact pow_toNat_div (by norm_num) k

theorem twoTo_pos (k : Int) : 0 < twoTo k := Nat.pow_pos Nat.two_pos

theorem tenTo_pos (k : Int) : 0 < tenTo k := Nat.pow_pos (by decide)

/-! ## The nearest integer -/

/-- Between two bounds, which belong to it if `m` is even. -/
def Between (m : Nat) (lo hi u : ℚ) : Prop := lo ≤ u ∧ u ≤ hi ∧ (m % 2 = 1 → u ≠ lo ∧ u ≠ hi)

theorem div_eq_add_rest (num : Nat) (hden : 0 < den) :
    ∃ f : ℚ, (num : ℚ) / den = (num / den : Nat) + f ∧ 0 ≤ f ∧ f < 1 ∧
      f * den = (num % den : Nat) := by
  have hd : (0 : ℚ) < den := Nat.cast_pos.mpr hden
  have hlt : ((num % den : Nat) : ℚ) < den := Nat.cast_lt.mpr (Nat.mod_lt _ hden)
  have hsum : (num : ℚ) = den * (num / den : Nat) + (num % den : Nat) := by
    exact_mod_cast (Nat.div_add_mod num den).symm
  refine ⟨(num % den : Nat) / den, ?_, by positivity, (div_lt_one hd).mpr hlt, ?_⟩
  · conv_lhs => rw [hsum]
    field_simp
  · field_simp

theorem roundDiv_eq_or (num den : Nat) :
    roundDiv num den = num / den ∨ roundDiv num den = num / den + 1 := by
  unfold roundDiv
  dsimp only
  split_ifs <;> omega

theorem roundDiv_of_rest {f : ℚ} (hden : 0 < den) (hrest : f * den = (num % den : Nat)) :
    (f < 1 / 2 → roundDiv num den = num / den) ∧
      (f = 1 / 2 → roundDiv num den = num / den + num / den % 2) ∧
      (1 / 2 < f → roundDiv num den = num / den + 1) := by
  have hd : (0 : ℚ) < den := Nat.cast_pos.mpr hden
  have htwice : ((2 * (num % den) : Nat) : ℚ) = 2 * f * den := by
    push_cast
    rw [← hrest, mul_assoc]
  refine ⟨fun hf => ?_, fun hf => ?_, fun hf => ?_⟩
  · have hr : 2 * (num % den) < den := by
      rw [← Nat.cast_lt (α := ℚ), htwice]
      exact mul_lt_of_lt_one_left hd (by linarith)
    exact if_pos hr
  · have hr : 2 * (num % den) = den := by
      rw [← Nat.cast_inj (R := ℚ), htwice, hf]
      ring
    exact (if_neg (by omega)).trans (if_neg (by omega))
  · have hr : den < 2 * (num % den) := by
      rw [← Nat.cast_lt (α := ℚ), htwice]
      exact lt_mul_of_one_lt_left hd (by linarith)
    exact (if_neg (by omega)).trans (if_pos hr)

/-- **The nearest integer** is one at no more than one half, and less than that if it is odd. -/
theorem roundDiv_eq (hden : 0 < den) (h : Between m (m - 1 / 2) (m + 1 / 2) ((num : ℚ) / den)) :
    roundDiv num den = m := by
  obtain ⟨f, hu, hf₀, hf₁, hrest⟩ := div_eq_add_rest num hden
  obtain ⟨hbelow, hhalf, habove⟩ := roundDiv_of_rest hden hrest
  obtain ⟨hlo, hhi, hends⟩ := h
  rw [hu] at hlo hhi hends
  generalize num / den = q at *
  rcases lt_trichotomy f (1 / 2) with hf | hf | hf
  · rw [hbelow hf]
    have hle : (q : ℚ) < (m + 1 : Nat) := by push_cast; linarith
    have hge : (m : ℚ) < (q + 1 : Nat) := by push_cast; linarith
    rw [Nat.cast_lt] at hle hge
    omega
  · -- the even one of two
    rw [hhalf hf]
    have hle : (q : ℚ) ≤ m := by linarith
    have hge : (m : ℚ) ≤ (q + 1 : Nat) := by push_cast; linarith
    rw [Nat.cast_le] at hle hge
    have hodd : m % 2 = 1 → q ≠ m ∧ q + 1 ≠ m := fun hodd => by
      obtain ⟨hne₁, hne₂⟩ := hends hodd
      constructor
      · rintro rfl
        exact hne₂ (by rw [hf])
      · rintro rfl
        refine hne₁ ?_
        rw [hf]
        push_cast
        ring
    omega
  · rw [habove hf]
    have hle : (q : ℚ) < m := by linarith
    have hge : (m : ℚ) < (q + 2 : Nat) := by push_cast; linarith
    rw [Nat.cast_lt] at hle hge
    omega

/-- A number between two integers is rounded to one between them. -/
theorem roundDiv_bounds (lo : Nat) {hi : Nat} (hden : 0 < den) (hlo : (lo : ℚ) ≤ (num : ℚ) / den)
    (hhi : (num : ℚ) / den < hi) : lo ≤ roundDiv num den ∧ roundDiv num den ≤ hi := by
  have hd : (0 : ℚ) < den := Nat.cast_pos.mpr hden
  have hl : lo ≤ num / den := by
    rw [Nat.le_div_iff_mul_le hden]
    rw [le_div_iff₀ hd] at hlo
    exact_mod_cast hlo
  have hh : num / den < hi := by
    rw [Nat.div_lt_iff_lt_mul hden]
    rw [div_lt_iff₀ hd] at hhi
    exact_mod_cast hhi
  have hq := roundDiv_eq_or num den
  omega

/-! ## The exponent of a quotient -/

theorem scaled_div (hden : 0 < den) (k : Int) :
    ((scaled num den k).1 : ℚ) / (scaled num den k).2 = (num : ℚ) / den / 2 ^ k := by
  have hd : (den : ℚ) ≠ 0 := Nat.cast_ne_zero.mpr hden.ne'
  have h₁ : (twoTo k : ℚ) ≠ 0 := Nat.cast_ne_zero.mpr (twoTo_pos k).ne'
  have h₂ : (twoTo (-k) : ℚ) ≠ 0 := Nat.cast_ne_zero.mpr (twoTo_pos (-k)).ne'
  unfold scaled
  rw [← twoTo_div k]
  push_cast
  field_simp

theorem scaled_snd_pos (hden : 0 < den) (k : Int) : 0 < (scaled num den k).2 :=
  Nat.mul_pos hden (twoTo_pos k)

theorem ratio_bounds (hnum : 0 < num) (hden : 0 < den) :
    (2 : ℚ) ^ ((num.log2 : Int) - den.log2 - 1) < (num : ℚ) / den ∧
      (num : ℚ) / den < 2 ^ ((num.log2 : Int) - den.log2 + 1) := by
  have hd : (0 : ℚ) < den := Nat.cast_pos.mpr hden
  have n₁ : (2 : ℚ) ^ num.log2 ≤ num := by exact_mod_cast Nat.log2_self_le hnum.ne'
  have n₂ : (num : ℚ) < 2 ^ (num.log2 + 1) := by exact_mod_cast Nat.lt_log2_self
  have d₁ : (2 : ℚ) ^ den.log2 ≤ den := by exact_mod_cast Nat.log2_self_le hden.ne'
  have d₂ : (den : ℚ) < 2 ^ (den.log2 + 1) := by exact_mod_cast Nat.lt_log2_self
  have hpn : (0 : ℚ) < 2 ^ num.log2 := by positivity
  have hpd : (0 : ℚ) < 2 ^ den.log2 := by positivity
  constructor
  · have hexp : (2 : ℚ) ^ ((num.log2 : Int) - den.log2 - 1) =
        2 ^ num.log2 / 2 ^ (den.log2 + 1) := by
      rw [sub_sub, zpow_sub₀ two_ne_zero]
      norm_cast
    rw [hexp, div_lt_div_iff₀ (by positivity) hd]
    nlinarith
  · have hexp : (2 : ℚ) ^ ((num.log2 : Int) - den.log2 + 1) =
        2 ^ (num.log2 + 1) / 2 ^ den.log2 := by
      rw [show (num.log2 : Int) - den.log2 + 1 = (num.log2 + 1 : Nat) - den.log2 by push_cast; ring,
        zpow_sub₀ two_ne_zero]
      norm_cast
    rw [hexp, div_lt_div_iff₀ hd hpd]
    nlinarith

/-- **The exponent of a quotient** leaves less than 53 binary digits and one before the point, and
no less than 53 of them unless it is the least exponent. -/
theorem ratioExpo_spec (hnum : 0 < num) (hden : 0 < den) :
    minExpo ≤ ratioExpo num den ∧ (num : ℚ) / den < 2 ^ 53 * 2 ^ ratioExpo num den ∧
      (ratioExpo num den = minExpo ∨ 2 ^ 52 * 2 ^ ratioExpo num den ≤ (num : ℚ) / den) := by
  obtain ⟨hlow, hhigh⟩ := ratio_bounds hnum hden
  unfold ratioExpo
  dsimp only
  generalize he : (num.log2 : Int) - den.log2 - 53 = e
  have hfloor : 2 * fullMant ≤ (scaled num den e).1 / (scaled num den e).2 ↔
      (2 : ℚ) ^ 53 * 2 ^ e ≤ (num : ℚ) / den := by
    have hs : (0 : ℚ) < (scaled num den e).2 := Nat.cast_pos.mpr (scaled_snd_pos hden e)
    rw [Nat.le_div_iff_mul_le (scaled_snd_pos hden e), ← Nat.cast_le (α := ℚ), Nat.cast_mul,
      ← le_div_iff₀ hs, scaled_div hden, le_div_iff₀ (by positivity)]
    norm_num [fullMant]
  obtain ⟨E, hE⟩ : ∃ E, (if 2 * fullMant ≤ (scaled num den e).1 / (scaled num den e).2 then e + 1
      else e) = E := ⟨_, rfl⟩
  have hspec : (2 : ℚ) ^ 52 * 2 ^ E ≤ (num : ℚ) / den ∧ (num : ℚ) / den < 2 ^ 53 * 2 ^ E := by
    have hl : (num.log2 : Int) - den.log2 - 1 = e + 52 := by omega
    have hh : (num.log2 : Int) - den.log2 + 1 = e + 54 := by omega
    rw [hl, zpow_add₀ two_ne_zero] at hlow
    rw [hh, zpow_add₀ two_ne_zero] at hhigh
    norm_num at hlow hhigh
    rw [← hE]
    split_ifs with h
    · rw [hfloor] at h
      rw [zpow_add_one₀ two_ne_zero]
      constructor <;> linarith
    · rw [hfloor, not_le] at h
      constructor <;> linarith
  rw [hE]
  refine ⟨le_max_left _ _, hspec.2.trans_le ?_, ?_⟩
  · have hmono : (2 : ℚ) ^ E ≤ 2 ^ max minExpo E :=
      zpow_le_zpow_right₀ one_le_two (le_max_right _ _)
    linarith
  · rcases le_total E minExpo with h | h
    · exact .inl (max_eq_left h)
    · exact .inr (by rw [max_eq_right h]; exact hspec.1)

/-! ## The double nearest to a quotient -/

theorem fullMant_cast : (fullMant : ℚ) = 2 ^ 52 := by norm_num [fullMant]

/-- The significands and exponents of doubles. -/
structure Canonical (m : Nat) (e : Int) : Prop where
  mant_lt : m < 2 * fullMant
  minExpo_le : minExpo ≤ e
  expo_le : e ≤ maxExpo
  full_or_least : fullMant ≤ m ∨ e = minExpo

/-- A double in canonical form. -/
def IsCanonical : Binary64 → Prop
  | finite _ m e => Canonical m e
  | _ => True

theorem isCanonical_zero (neg : Bool) : (zero neg).IsCanonical :=
  ⟨by decide, by decide, by decide, .inr rfl⟩

theorem Canonical.add_one_le (hc : Canonical m e) : (m : ℚ) + 1 ≤ 2 ^ 53 := by
  have hlt : m + 1 ≤ 2 * fullMant := hc.mant_lt
  exact_mod_cast hlt

/-- The lower end of the numbers that are nearest to a double, in units of its last place. Below a
power of two the doubles stand twice as close. -/
def lower (m : Nat) (e : Int) : ℚ := if m = fullMant ∧ minExpo < e then m - 1 / 4 else m - 1 / 2

/-- The numbers that are nearest to a double; its significand decides about the ends. -/
def Nearest (m : Nat) (e : Int) (v : ℚ) : Prop := Between m (lower m e) (m + 1 / 2) (v / 2 ^ e)

theorem sub_half_le_lower (m : Nat) (e : Int) : (m : ℚ) - 1 / 2 ≤ lower m e := by
  unfold lower
  split_ifs <;> linarith

theorem Nearest.pos {v : ℚ} (hm : 0 < m) (h : Nearest m e v) : 0 < v := by
  have hone : (1 : ℚ) ≤ m := by exact_mod_cast hm
  have hlow := (sub_half_le_lower m e).trans h.1
  have hpos : (0 : ℚ) < 2 ^ e := by positivity
  exact (div_pos_iff_of_pos_right hpos).mp (by linarith)

theorem Nearest.between {v : ℚ} (h : Nearest m e v) :
    Between m (m - 1 / 2) (m + 1 / 2) (v / 2 ^ e) := by
  obtain ⟨hlo, hhi, hends⟩ := h
  have hle := sub_half_le_lower m e
  refine ⟨hle.trans hlo, hhi, fun hodd => ⟨fun heq => ?_, (hends hodd).2⟩⟩
  exact (hends hodd).1 (le_antisymm (heq.trans_le hle) hlo)

/-- The exponent of a number that is nearest to a double is that of the double, unless the number is
below the power of two that the double is. -/
theorem Nearest.expo {v : ℚ} {E : Int} (hc : Canonical m e) (h : Nearest m e v)
    (hleast : minExpo ≤ E) (hlt : v < 2 ^ 53 * 2 ^ E) (hge : E = minExpo ∨ 2 ^ 52 * 2 ^ E ≤ v) :
    E = e ∨ m = fullMant ∧ minExpo < e ∧ E = e - 1 := by
  obtain ⟨hlo, hhi, -⟩ := h
  have hpos : (0 : ℚ) < 2 ^ e := by positivity
  have hm := hc.add_one_le
  rcases lt_trichotomy E e with hE | hE | hE
  · -- a smaller exponent: there are less than `2 ^ 52` units, and so `m` is no more than that
    have below : ∀ k : Int, E ≤ e - k → v / 2 ^ e < 2 ^ 53 / 2 ^ k := fun k hk => by
      have hmono : (2 : ℚ) ^ E ≤ 2 ^ (e - k) := zpow_le_zpow_right₀ one_le_two hk
      rw [zpow_sub₀ two_ne_zero] at hmono
      rw [div_lt_iff₀ hpos, div_mul_comm, mul_comm]
      linarith
    have hmin : minExpo < e := by omega
    have hfull : fullMant ≤ m := hc.full_or_least.resolve_right (by omega)
    have hle : m = fullMant := by
      have hunits := below 1 (by omega)
      have hbound := sub_half_le_lower m e
      have hlt' : (m : ℚ) < fullMant + 1 := by
        rw [fullMant_cast]
        linarith
      have : m < fullMant + 1 := by exact_mod_cast hlt'
      omega
    refine .inr ⟨hle, hmin, ?_⟩
    by_contra hne
    have hunits := below 2 (by omega)
    have hbound := sub_half_le_lower m e
    rw [hle] at hbound hlo
    norm_num [fullMant] at hunits hlo hbound
    linarith
  · exact .inl hE
  · -- a greater exponent: there are at least `2 ^ 53` units
    have hE' : 2 ^ 52 * 2 ^ E ≤ v := hge.resolve_left (by have := hc.minExpo_le; omega)
    have hmono : (2 : ℚ) ^ (e + 1) ≤ 2 ^ E := zpow_le_zpow_right₀ one_le_two (by omega)
    rw [zpow_add_one₀ two_ne_zero] at hmono
    have hunits : (2 : ℚ) ^ 53 ≤ v / 2 ^ e := by
      rw [le_div_iff₀ hpos]
      linarith
    linarith

/-- **A number in the interval of a double is rounded to it.** -/
theorem ofRatio_of_nearest (neg : Bool) (hc : Canonical m e) (hm : 0 < m) (hden : 0 < den)
    (h : Nearest m e ((num : ℚ) / den)) : ofRatio neg num den = finite neg m e := by
  have hpos : (0 : ℚ) < 2 ^ e := by positivity
  have hnum : 0 < num := by
    have hv := h.pos hm
    rcases Nat.eq_zero_or_pos num with rfl | hnum
    · simp at hv
    · exact hnum
  obtain ⟨hleast, hlt, hge⟩ := ratioExpo_spec hnum hden
  unfold ofRatio
  rw [if_neg hnum.ne']
  dsimp only
  rcases h.expo hc hleast hlt hge with hE | ⟨hfull, hmin, hE⟩
  · have hround : roundDiv (scaled num den e).1 (scaled num den e).2 = m := by
      refine roundDiv_eq (scaled_snd_pos hden e) ?_
      rw [scaled_div hden]
      exact h.between
    rw [hE, hround, if_neg hc.mant_lt.ne]
    exact if_neg (not_lt.mpr hc.expo_le)
  · -- rounded up to the power of two from below
    have hround : roundDiv (scaled num den (e - 1)).1 (scaled num den (e - 1)).2 =
        2 * fullMant := by
      have hu : (num : ℚ) / den / 2 ^ (e - 1) = 2 * ((num : ℚ) / den / 2 ^ e) := by
        rw [zpow_sub_one₀ two_ne_zero]
        field_simp
      have hlow : lower m e = m - 1 / 4 := if_pos ⟨hfull, hmin⟩
      obtain ⟨hlo, -, -⟩ := h
      rw [hE] at hlt
      rw [← div_lt_iff₀ (by positivity), hu] at hlt
      rw [hlow, hfull] at hlo
      refine roundDiv_eq (scaled_snd_pos hden _) ?_
      rw [scaled_div hden, hu]
      push_cast
      refine ⟨by linarith, ?_, fun hodd => by omega⟩
      norm_num [fullMant] at hlt ⊢
      linarith
    rw [hE, hround, if_pos rfl, hfull]
    dsimp only
    rw [sub_add_cancel]
    exact if_neg (not_lt.mpr hc.expo_le)

/-- **What is rounded is a double.** -/
theorem isCanonical_ofRatio (neg : Bool) (num : Nat) (hden : 0 < den) :
    (ofRatio neg num den).IsCanonical := by
  unfold ofRatio
  split_ifs with hnum
  · exact isCanonical_zero neg
  obtain ⟨hleast, hlt, hge⟩ := ratioExpo_spec (Nat.pos_of_ne_zero hnum) hden
  dsimp only
  generalize ratioExpo num den = E at *
  have hpos : (0 : ℚ) < 2 ^ E := by positivity
  have hupper : ((scaled num den E).1 : ℚ) / (scaled num den E).2 < (2 * fullMant : Nat) := by
    rw [scaled_div hden, div_lt_iff₀ hpos]
    norm_num [fullMant] at hlt ⊢
    exact hlt
  have hm := fun lo hlo => roundDiv_bounds lo (scaled_snd_pos hden E) hlo hupper
  split_ifs with hfull hmax hmax
  · exact trivial
  · have hmant : fullMant < 2 * fullMant := by decide
    exact ⟨hmant, by omega, by omega, .inl le_rfl⟩
  · exact trivial
  · have hle := (hm 0 (by positivity)).2
    refine ⟨by omega, hleast, by omega, ?_⟩
    rcases hge with hE | hE
    · exact .inr hE
    · refine .inl (hm fullMant ?_).1
      rw [scaled_div hden, le_div_iff₀ hpos]
      norm_num [fullMant] at hE ⊢
      exact hE

end Forum.Binary64
