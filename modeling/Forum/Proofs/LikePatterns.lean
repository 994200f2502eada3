import Forum.Sql.Search
import Forum.Text.LetterCase
import Mathlib.Data.List.Infix

/-!
# What the patterns of a search match

A word is looked for with a pattern. In a pattern a percent sign stands for any text, an underscore
for any one character, and a backslash takes the meaning from the character after it. Where case is
not to matter, the text and the pattern are folded alike before they are compared.

* `Wanted`, `readPattern`: what a pattern asks for, and how it is read;
* `fits`, `like`: a text that has what a pattern asks for;
* `Folding`, `Folding.ilike`: foldings of case; `Folding.unicode`: the small forms of all letters;
* `readPattern_escapeLike`, `fits_contains`: an escaped word is read as its characters, and with any
  text around them it is contained;
* `Folding.fold_likePattern`: folding a pattern is folding its word;
* **`like_likePattern`**: the pattern of a word matches the texts that contain it.
-/

/-! ## Letters between characters without case -/

namespace Forum.Text

/-- A character that no rule of case looks at or past. -/
def partsLetters (c : Char) : Bool := !isCased c && !isCaseIgnorable c

variable {c : Char}

theorem meetsCased_append (hc : partsLetters c = true) (s t : List Char) :
    meetsCased (s ++ c :: t) = meetsCased s := by
  obtain ⟨hcased, hignorable⟩ := (Bool.and_eq_true _ _).mp hc
  rw [Bool.not_eq_true'] at hcased hignorable
  unfold meetsCased
  rw [List.dropWhile_append]
  cases s.dropWhile isCaseIgnorable with
  | nil => simp [hcased, hignorable]
  | cons d s => rfl

theorem smallIn_append (hc : partsLetters c = true) (before : List Char) (d : Char)
    (s t : List Char) : smallIn before d (s ++ c :: t) = smallIn before d s := by
  unfold smallIn
  rw [meetsCased_append hc]

theorem lowercaseFrom_append (hc : partsLetters c = true) (before past s : List Char) :
    lowercaseFrom (before ++ c :: past) s = lowercaseFrom before s := by
  induction s generalizing before with
  | nil => rfl
  | cons d s ih =>
    have hd : smallIn (before ++ c :: past) d s = smallIn before d s := by
      unfold smallIn
      rw [meetsCased_append hc]
    rw [lowercaseFrom, lowercaseFrom, hd, ← List.cons_append, ih]

/-- **A character without case parts a text**: its two sides become small on their own. -/
theorem lowercaseFrom_parts (hc : partsLetters c = true) (hsmall : ∀ b s, smallIn b c s = [c])
    (before s t : List Char) : lowercaseFrom before (s ++ c :: t) =
      lowercaseFrom before s ++ c :: lowercaseFrom [] t := by
  induction s generalizing before with
  | nil =>
    have ht : lowercaseFrom (c :: before) t = lowercaseFrom [] t :=
      lowercaseFrom_append hc [] before t
    change smallIn before c t ++ lowercaseFrom (c :: before) t = c :: lowercaseFrom [] t
    rw [hsmall, ht]
    rfl
  | cons d s ih =>
    rw [List.cons_append, lowercaseFrom, smallIn_append hc, ih, lowercaseFrom, List.append_assoc]

end Forum.Text

namespace Forum.Sql

/-! ## Patterns -/

/-- What a pattern asks for: any text, any one character, or a character. -/
inductive Wanted where
  | anyText
  | anyChar
  | char (c : Char)
deriving DecidableEq, Repr

/-- What a pattern asks for, from left to right. It is no pattern if a backslash at its end has
nothing to stand before. -/
def readPattern : List Char → Option (List Wanted)
  | [] => some []
  | '%' :: p => (readPattern p).map (.anyText :: ·)
  | '_' :: p => (readPattern p).map (.anyChar :: ·)
  | ['\\'] => none
  | '\\' :: c :: p => (readPattern p).map (.char c :: ·)
  | c :: p => (readPattern p).map (.char c :: ·)

/-- Does a text have all that is wanted, and nothing else? -/
def fits : List Wanted → List Char → Bool
  | [], s => s.isEmpty
  | .anyText :: p, s => s.tails.any fun rest => fits p rest
  | .anyChar :: p, s =>
    match s with
    | [] => false
    | _ :: s => fits p s
  | .char c :: p, s =>
    match s with
    | [] => false
    | d :: s => c = d && fits p s

/-- Does a text match a pattern? -/
def like (text pattern : String) : Bool :=
  (readPattern pattern.toList).any fun p => fits p text.toList

/-! ## The pattern of a word -/

section Contains

variable {p : List Wanted} {s word : List Char} {c : Char}

theorem fits_anyText : fits (.anyText :: p) s = true ↔
    ∃ before rest, before ++ rest = s ∧ fits p rest = true := by
  rw [fits, List.any_eq_true]
  constructor
  · rintro ⟨rest, hrest, hfits⟩
    obtain ⟨before, hs⟩ := (List.mem_tails rest s).mp hrest
    exact ⟨before, rest, hs, hfits⟩
  · rintro ⟨before, rest, hs, hfits⟩
    exact ⟨rest, (List.mem_tails rest s).mpr ⟨before, hs⟩, hfits⟩

theorem fits_chars : fits (word.map .char ++ p) s = true ↔
    ∃ rest, word ++ rest = s ∧ fits p rest = true := by
  induction word generalizing s with
  | nil => simp
  | cons c word ih =>
    cases s with
    | nil => simp [fits]
    | cons d s => simp [fits, ih, and_assoc]

/-- **Some characters with any text around them** are wanted of the texts that contain them. -/
theorem fits_contains : fits (.anyText :: (word.map .char ++ [.anyText])) s = true ↔
    word <:+: s := by
  have hany (rest : List Char) : fits [.anyText] rest = true :=
    fits_anyText.mpr ⟨rest, [], List.append_nil rest, rfl⟩
  simp only [fits_anyText, fits_chars, hany, and_true]
  constructor
  · rintro ⟨before, _, hs, rest, rfl⟩
    exact ⟨before, rest, by rw [← hs, List.append_assoc]⟩
  · rintro ⟨before, rest, hs⟩
    exact ⟨before, _, by rw [← hs, List.append_assoc], rest, rfl⟩

theorem readPattern_plain {p : List Char} (hc : isWildcard c = false) :
    readPattern (c :: p) = (readPattern p).map (.char c :: ·) := by
  rw [readPattern.eq_def]
  split <;> simp_all [isWildcard]

theorem readPattern_escape {p : List Char} :
    readPattern ('\\' :: c :: p) = (readPattern p).map (.char c :: ·) := by
  rw [readPattern.eq_def]
  rfl

theorem escapeLike_cons : escapeLike (c :: s) =
    (if isWildcard c then ['\\', c] else [c]) ++ escapeLike s := rfl

theorem escapeLike_append (s t : List Char) :
    escapeLike (s ++ t) = escapeLike s ++ escapeLike t := List.flatMap_append

theorem escapeLike_of_plain (h : ∀ c ∈ s, isWildcard c = false) :
    escapeLike s = s := by
  induction s with
  | nil => rfl
  | cons c s ih =>
    have hc : isWildcard c = false := h c List.mem_cons_self
    rw [escapeLike_cons, hc, ih fun d hd => h d (List.mem_cons_of_mem _ hd)]
    rfl

theorem escapeLike_wildcard (hc : isWildcard c = true) :
    escapeLike (c :: s) = '\\' :: c :: escapeLike s := by
  rw [escapeLike_cons, if_pos hc]
  rfl

/-- **An escaped word is read as its characters**, whatever they are. -/
theorem readPattern_escapeLike (word p : List Char) :
    readPattern (escapeLike word ++ p) = (readPattern p).map (word.map .char ++ ·) := by
  induction word with
  | nil => exact Option.map_id'.symm
  | cons c word ih =>
    have hc : readPattern (escapeLike (c :: word) ++ p) =
        (readPattern (escapeLike word ++ p)).map (.char c :: ·) := by
      rw [escapeLike_cons]
      split
      · exact readPattern_escape
      · next hplain => exact readPattern_plain (Bool.eq_false_iff.mpr hplain)
    rw [hc, ih, Option.map_map]
    rfl

theorem readPattern_contains (word : List Char) :
    readPattern ('%' :: escapeLike word ++ ['%']) =
      some (.anyText :: (word.map .char ++ [.anyText])) := by
  have hword : readPattern (escapeLike word ++ ['%']) = some (word.map .char ++ [.anyText]) :=
    readPattern_escapeLike word ['%']
  rw [List.cons_append, readPattern, hword]
  rfl

theorem toList_likePattern (word : String) :
    (likePattern word).toList = '%' :: escapeLike word.toList ++ ['%'] := String.toList_ofList

end Contains

/-! ## Foldings -/

/-- A folding of case. The letters around a letter may matter, but none past a wildcard. Wildcards
stay what they are, and nothing else becomes one. -/
structure Folding where
  fold : List Char → List Char
  fold_nil : fold [] = []
  fold_parts : ∀ c, isWildcard c = true → ∀ s t, fold (s ++ c :: t) = fold s ++ c :: fold t
  fold_plain : ∀ s, (∀ c ∈ s, isWildcard c = false) → ∀ c ∈ fold s, isWildcard c = false

namespace Folding

variable (φ : Folding)

/-- Does a text match a pattern, whatever the case of their letters? -/
def ilike (text pattern : String) : Bool :=
  like (String.ofList (φ.fold text.toList)) (String.ofList (φ.fold pattern.toList))

/-- **Folding an escaped word** is escaping the folded word. The induction is on what is left of the
word, with a part before it that has no wildcard: only there the letters can depend on each other. -/
theorem fold_escapeLike (word : List Char) : φ.fold (escapeLike word) = escapeLike (φ.fold word) := by
  suffices h : ∀ done, (∀ c ∈ done, isWildcard c = false) →
      φ.fold (done ++ escapeLike word) = escapeLike (φ.fold (done ++ word)) from h [] (by simp)
  induction word with
  | nil =>
    intro done hdone
    have hempty : escapeLike [] = [] := rfl
    rw [hempty, List.append_nil, escapeLike_of_plain (φ.fold_plain done hdone)]
  | cons c word ih =>
    intro done hdone
    cases hc : isWildcard c with
    | true =>
      have hrest : φ.fold (c :: escapeLike word) = c :: escapeLike (φ.fold word) := by
        have hword := ih [] (by simp)
        rw [List.nil_append, List.nil_append] at hword
        rw [← List.nil_append (c :: _), φ.fold_parts c hc, φ.fold_nil, hword]
        rfl
      rw [escapeLike_wildcard hc, φ.fold_parts '\\' rfl, hrest, φ.fold_parts c hc,
        escapeLike_append, escapeLike_of_plain (φ.fold_plain done hdone), escapeLike_wildcard hc]
    | false =>
      have hdone' : ∀ d ∈ done ++ [c], isWildcard d = false := by
        simpa [or_imp, forall_and, hc] using hdone
      have hnext := ih (done ++ [c]) hdone'
      rw [List.append_assoc, List.append_assoc] at hnext
      rw [escapeLike_cons, hc]
      exact hnext

/-- **Folding the pattern of a word** is folding the word. -/
theorem fold_likePattern (word : String) : φ.fold (likePattern word).toList =
    '%' :: escapeLike (φ.fold word.toList) ++ ['%'] := by
  rw [toList_likePattern, φ.fold_parts '%' rfl, φ.fold_nil, ← List.nil_append ('%' :: _),
    φ.fold_parts '%' rfl, φ.fold_nil, fold_escapeLike]
  rfl

end Folding

/-! ## The small forms of all letters -/

theorem partsLetters_of_wildcard {c : Char} (hc : isWildcard c = true) :
    Text.partsLetters c = true ∧ ∀ before s, Text.smallIn before c s = [c] := by
  have hcase : Text.partsLetters c = true ∧ c ≠ '\u03a3' ∧ c ≠ '\u0130' ∧ Text.smallChar c = c := by
    simp only [isWildcard, Bool.or_eq_true, decide_eq_true_eq] at hc
    rcases hc with (rfl | rfl) | rfl <;> decide +kernel
  obtain ⟨hparts, hsigma, hdotted, hsmall⟩ := hcase
  refine ⟨hparts, fun before s => ?_⟩
  rw [Text.smallIn, if_neg hsigma, if_neg hdotted, hsmall]

theorem lt_of_mem_smallForms : ∀ r ∈ Text.smallForms, 0x5f < r.lo + r.shift := by
  decide +kernel

theorem isWildcard_ofNat {n : Nat} (hn : 0x5f < n) : isWildcard (Char.ofNat n) = false := by
  have hvalue : (Char.ofNat n).toNat = 0 ∨ 0x5f < (Char.ofNat n).toNat := by
    by_cases hvalid : n.isValidChar
    · rw [Char.ofNat, dif_pos hvalid]
      exact .inr hn
    · rw [Char.ofNat, dif_neg hvalid]
      exact .inl rfl
  refine Bool.eq_false_iff.mpr fun hc => ?_
  simp only [isWildcard, Bool.or_eq_true, decide_eq_true_eq] at hc
  rcases hc with (hc | hc) | hc <;> rw [hc] at hvalue <;> exact absurd hvalue (by decide)

theorem isWildcard_smallChar {c : Char} (hc : isWildcard c = false) :
    isWildcard (Text.smallChar c) = false := by
  unfold Text.smallChar
  dsimp only
  split
  · next r hr =>
    have hmem : r ∈ Text.smallForms := List.mem_of_find?_eq_some hr
    have hrun := List.find?_some hr
    simp only [Bool.and_eq_true, decide_eq_true_eq] at hrun
    have hlo : r.lo ≤ c.toNat := hrun.1.1
    have hpast := lt_of_mem_smallForms r hmem
    exact isWildcard_ofNat (by omega)
  · exact hc

theorem isWildcard_smallIn {before s : List Char} {c : Char} (hc : isWildcard c = false) :
    ∀ d ∈ Text.smallIn before c s, isWildcard d = false := by
  unfold Text.smallIn
  split_ifs with hsigma hend hdotted
  · exact List.forall_mem_singleton.mpr rfl
  · exact List.forall_mem_singleton.mpr rfl
  · exact List.forall_mem_cons.mpr ⟨rfl, List.forall_mem_singleton.mpr rfl⟩
  · exact List.forall_mem_singleton.mpr (isWildcard_smallChar hc)

/-- The small forms of a text, as in `Text.lowercase`. -/
def Folding.unicode : Folding where
  fold := Text.lowercaseFrom []
  fold_nil := rfl
  fold_parts c hc := Text.lowercaseFrom_parts (partsLetters_of_wildcard hc).1
    (partsLetters_of_wildcard hc).2 []
  fold_plain s hs := by
    suffices h : ∀ before, ∀ d ∈ Text.lowercaseFrom before s, isWildcard d = false from h []
    induction s with
    | nil => simp [Text.lowercaseFrom]
    | cons c s ih =>
      intro before
      rw [Text.lowercaseFrom, List.forall_mem_append]
      exact ⟨isWildcard_smallIn (hs c List.mem_cons_self),
        ih (fun d hd => hs d (List.mem_cons_of_mem _ hd)) _⟩

/-- **The pattern of a word matches the texts that contain it**, and where case does not matter, those
that contain it after folding. It never ends in a backslash with nothing to stand before. -/
theorem like_likePattern (word text : String) (φ : Folding) :
    (readPattern (likePattern word).toList).isSome ∧
      (like text (likePattern word) = true ↔ word.toList <:+: text.toList) ∧
      (readPattern (φ.fold (likePattern word).toList)).isSome ∧
      (φ.ilike text (likePattern word) = true ↔
        φ.fold word.toList <:+: φ.fold text.toList) := by
  have hread := readPattern_contains word.toList
  have hfold := readPattern_contains (φ.fold word.toList)
  rw [← toList_likePattern] at hread
  rw [← φ.fold_likePattern] at hfold
  refine ⟨by rw [hread]; rfl, ?_, by rw [hfold]; rfl, ?_⟩
  · rw [like, hread]
    exact fits_contains
  · rw [Folding.ilike, like, String.toList_ofList, String.toList_ofList, hfold]
    exact fits_contains

example : Folding.unicode.ilike "ΣΤΟ 50% ΤΟΥ C:\\" (likePattern "50% του c:\\") = true := by
  decide +kernel

end Forum.Sql
