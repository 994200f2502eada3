import Forum.Text.Blank
import Forum.Text.Letters
import Mathlib.Data.List.Forall2
import Mathlib.Data.List.TakeWhile

/-!
# Runs, blanks and keywords in texts

* `takeWhile_dropWhile_iff`: the longest run of some characters at the start of a text;
* `IsTrimmed`, `Spaced`, `Ended`: a text without the blanks at its ends, and words after blanks;
* `Closed`: a text that ends with no blank, and so do its ends;
* `Spells`: a text that spells a keyword, letter for letter and in either case;
* **`isTrimmed_trim`**: `trim` takes the blanks at the ends and nothing else;
* **`matchFolded_iff`**: a keyword is matched where the text spells it.
-/

namespace Forum.Text

variable {s t e words rest : List Char} {p : Char → Bool}

/-! ## Runs -/

/-- The longest run, and what it leaves: that starts with no character of the run's kind. -/
theorem takeWhile_dropWhile_iff : s.takeWhile p = e ∧ s.dropWhile p = rest ↔
    s = e ++ rest ∧ (∀ c ∈ e, p c = true) ∧ ∀ c ∈ rest.head?, p c = false := by
  constructor
  · rintro ⟨rfl, rfl⟩
    refine ⟨List.takeWhile_append_dropWhile.symm, fun c => List.mem_takeWhile_imp, fun c hc => ?_⟩
    have hhead := List.head?_dropWhile_not p s
    rwa [Option.mem_def.mp hc] at hhead
  · rintro ⟨rfl, he, hrest⟩
    rw [List.takeWhile_append_of_pos he, List.dropWhile_append_of_pos he]
    cases rest with
    | nil => simp
    | cons c rest => simp [hrest c rfl]

/-! ## Blanks -/

/-- The text without the blanks at its two ends. -/
def IsTrimmed (s t : List Char) : Prop :=
  ∃ before after, s = before ++ t ++ after ∧ (∀ c ∈ before ++ after, isBlank c = true) ∧
    (∀ c ∈ t.head?, isBlank c = false) ∧ ∀ c ∈ t.getLast?, isBlank c = false

/-- Any number of blanks, then words. -/
def Spaced (s words : List Char) : Prop :=
  ∃ blanks, s = blanks ++ words ∧ (∀ c ∈ blanks, isBlank c = true) ∧
    ∀ c ∈ words.head?, isBlank c = false

/-- The end of a text, or one or more blanks and then words. -/
def Ended (s words : List Char) : Prop :=
  s = [] ∧ words = [] ∨ ∃ c tail, s = c :: tail ∧ isBlank c = true ∧ Spaced tail words

@[simp] theorem ended_nil : Ended [] words ↔ words = [] := by
  simp [Ended]

@[simp] theorem ended_cons {c : Char} :
    Ended (c :: s) words ↔ isBlank c = true ∧ Spaced s words := by
  simp [Ended]

theorem Ended.head? (h : Ended s words) (hp : ∀ c, isBlank c = true → p c = false) :
    ∀ c ∈ s.head?, p c = false := by
  cases s with
  | nil => intro c hc; cases hc
  | cons d s =>
    intro c hc
    cases hc
    exact hp d (ended_cons.mp h).1

theorem trimStart_eq_iff : trimStart s = words ↔ Spaced s words := by
  constructor
  · rintro rfl
    exact ⟨_, takeWhile_dropWhile_iff.mp ⟨rfl, rfl⟩⟩
  · rintro ⟨blanks, h⟩
    exact (takeWhile_dropWhile_iff.mpr h).2

/-- A text that ends with no blank: of what is left after a part of it, only blanks in front are
ever taken. -/
def Closed (s : List Char) : Prop := ∀ c ∈ s.getLast?, isBlank c = false

theorem Closed.of_suffix (h : Closed t) (hs : s <:+ t) : Closed s := by
  obtain ⟨pre, rfl⟩ := hs
  intro c hc
  refine h c ?_
  rw [List.getLast?_append, Option.mem_def.mp hc]
  rfl

theorem Closed.of_append (h : Closed (s ++ t)) : Closed t := h.of_suffix (List.suffix_append s t)

theorem Closed.of_cons {c : Char} (h : Closed (c :: t)) : Closed t :=
  h.of_suffix (List.suffix_cons c t)

theorem trimEnd_eq_self (h : Closed s) : trimEnd s = s := by
  have hdrop : s.reverse.takeWhile isBlank = [] ∧ s.reverse.dropWhile isBlank = s.reverse :=
    takeWhile_dropWhile_iff.mpr ⟨rfl, by simp, by rwa [List.head?_reverse]⟩
  rw [trimEnd, hdrop.2, List.reverse_reverse]

theorem trim_eq_iff (h : Closed s) : trim s = words ↔ Spaced s words := by
  have hstart : Closed (trimStart s) := h.of_suffix (List.dropWhile_suffix isBlank)
  rw [trim, trimEnd_eq_self hstart, trimStart_eq_iff]

theorem trimEnd_split (s : List Char) : ∃ after, s = trimEnd s ++ after ∧
    (∀ c ∈ after, isBlank c = true) ∧ Closed (trimEnd s) := by
  obtain ⟨hsplit, hall, hhead⟩ := (takeWhile_dropWhile_iff (s := s.reverse)).mp ⟨rfl, rfl⟩
  refine ⟨(s.reverse.takeWhile isBlank).reverse, ?_, fun c hc => hall c (List.mem_reverse.mp hc),
    ?_⟩
  · rw [trimEnd, ← List.reverse_append, ← hsplit, List.reverse_reverse]
  · rwa [Closed, trimEnd, List.getLast?_reverse]

/-- **Trimming takes the blanks at the two ends** and nothing else. -/
theorem isTrimmed_trim (s : List Char) : IsTrimmed s (trim s) := by
  obtain ⟨before, hbefore, hblank, hhead⟩ := trimStart_eq_iff.mp (rfl : trimStart s = _)
  obtain ⟨after, hafter, hblank', hlast⟩ := trimEnd_split (trimStart s)
  refine ⟨before, after, ?_, List.forall_mem_append.mpr ⟨hblank, hblank'⟩, fun c hc => ?_, hlast⟩
  · rw [trim, List.append_assoc, ← hafter, ← hbefore]
  · refine hhead c ?_
    rw [hafter, List.head?_append]
    exact Option.or_eq_some_iff.mpr (.inl hc)

/-! ## Keywords -/

/-- The characters that match a small letter in either case. Simple case folding has two beyond the
26 capitals: the long s and the Kelvin sign. -/
def SameLetter (k c : Char) : Prop :=
  c = k ∨ c = k.toUpper ∨ k = 's' ∧ c = '\u017f' ∨ k = 'k' ∧ c = '\u212a'

/-- A text that spells a keyword, letter for letter. -/
def Spells (keyword : String) (s : List Char) : Prop :=
  List.Forall₂ SameLetter keyword.toList s

/-- A keyword is written in small letters, without blanks. -/
def IsKeyword (keyword : String) : Prop :=
  ∀ k ∈ keyword.toList, fold k = k ∧ isBlank k = false

instance (keyword : String) : Decidable (IsKeyword keyword) :=
  List.decidableBAll (fun k => fold k = k ∧ isBlank k = false) keyword.toList

theorem exists_ofNat {a k : Nat} {c : Char} (hlo : a ≤ c.toNat) (hhi : c.toNat < a + k) :
    ∃ n < k, c = Char.ofNat (a + n) := by
  refine ⟨c.toNat - a, by omega, ?_⟩
  rw [Nat.add_sub_cancel' hlo, Char.ofNat_toNat]

theorem exists_capital {c : Char} (h : 'A' ≤ c ∧ c ≤ 'Z') : ∃ n < 26, c = Char.ofNat (65 + n) :=
  exists_ofNat h.1 (Nat.lt_succ_of_le h.2)

theorem exists_small {c : Char} (h : 'a' ≤ c ∧ c ≤ 'z') : ∃ n < 26, c = Char.ofNat (97 + n) :=
  exists_ofNat h.1 (Nat.lt_succ_of_le h.2)

theorem fold_toUpper {k : Char} (h : fold k = k) : fold k.toUpper = k := by
  by_cases hsmall : 'a' ≤ k ∧ k ≤ 'z'
  · obtain ⟨n, hn, rfl⟩ := exists_small hsmall
    clear h hsmall
    revert n
    decide
  · have hupper : k.toUpper = k := dif_neg hsmall
    rw [hupper, h]

theorem toUpper_lowerAscii {c : Char} (h : 'A' ≤ c ∧ c ≤ 'Z') : (lowerAscii c).toUpper = c := by
  obtain ⟨n, hn, rfl⟩ := exists_capital h
  clear h
  revert n
  decide

theorem lowerAscii_of_not {c : Char} (h : ¬('A' ≤ c ∧ c ≤ 'Z')) : lowerAscii c = c := if_neg h

theorem sameLetter_iff {k c : Char} (hk : fold k = k) : SameLetter k c ↔ fold c = k := by
  constructor
  · rintro (rfl | rfl | ⟨rfl, rfl⟩ | ⟨rfl, rfl⟩)
    · exact hk
    · exact fold_toUpper hk
    · decide
    · decide
  · rintro rfl
    unfold fold
    split_ifs with hs hkelvin
    · exact .inr (.inr (.inl ⟨rfl, hs⟩))
    · exact .inr (.inr (.inr ⟨rfl, hkelvin⟩))
    · by_cases h : 'A' ≤ c ∧ c ≤ 'Z'
      · exact .inr (.inl (toUpper_lowerAscii h).symm)
      · exact .inl (lowerAscii_of_not h).symm

theorem isBlank_lowerAscii (c : Char) : isBlank (lowerAscii c) = isBlank c := by
  by_cases h : 'A' ≤ c ∧ c ≤ 'Z'
  · obtain ⟨n, hn, rfl⟩ := exists_capital h
    clear h
    revert n
    decide
  · rw [lowerAscii_of_not h]

theorem isBlank_fold (c : Char) : isBlank (fold c) = isBlank c := by
  unfold fold
  split_ifs with hs hkelvin
  · subst hs; decide
  · subst hkelvin; decide
  · exact isBlank_lowerAscii c

theorem spells_iff {keyword : String} (h : IsKeyword keyword) :
    Spells keyword s ↔ s.map fold = keyword.toList := by
  have hfold : ∀ k ∈ keyword.toList, fold k = k := fun k hk => (h k hk).1
  rw [eq_comm, ← List.forall₂_eq_eq_eq, List.forall₂_map_right_iff]
  constructor <;> intro hs
  · refine ((List.forall₂_and_left _ _).mpr ⟨hfold, hs⟩).imp fun k c ⟨hk, hc⟩ => ?_
    exact ((sameLetter_iff hk).mp hc).symm
  · refine ((List.forall₂_and_left _ _).mpr ⟨hfold, hs⟩).imp fun k c ⟨hk, hc⟩ => ?_
    exact (sameLetter_iff hk).mpr hc.symm

/-- **A keyword is matched where the text spells it**, and nothing else is passed over. -/
theorem matchFolded_iff {keyword : String} (h : IsKeyword keyword) :
    matchFolded keyword.toList s = some rest ↔
      ∃ spelt, s = spelt ++ rest ∧ Spells keyword spelt := by
  simp only [matchFolded_eq_some_iff, spells_iff h]

theorem isBlank_of_spells {keyword : String} (h : IsKeyword keyword) (hs : Spells keyword s) :
    ∀ c ∈ s, isBlank c = false := by
  intro c hc
  have hmem : fold c ∈ keyword.toList := by
    rw [← (spells_iff h).mp hs]
    exact List.mem_map_of_mem hc
  rw [← isBlank_fold]
  exact (h _ hmem).2

end Forum.Text
