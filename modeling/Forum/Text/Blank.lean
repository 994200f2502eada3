/-!
# Blank characters

* `isBlank`: the characters with the Unicode property White_Space, 25 in all;
* `trim`, `words`: a text without blanks at its ends, and the runs between blanks;
* **`words_ne_nil`**: no word is empty.
-/

namespace Forum.Text

/-- The Unicode property White_Space. -/
def isBlank (c : Char) : Bool :=
  let n := c.toNat
  (9 ≤ n && n ≤ 13) || n == 0x20 || n == 0x85 || n == 0xA0 || n == 0x1680 ||
    (0x2000 ≤ n && n ≤ 0x200A) || n == 0x2028 || n == 0x2029 || n == 0x202F || n == 0x205F ||
    n == 0x3000

/-- The text from its first character that is not blank. -/
def trimStart (s : List Char) : List Char := s.dropWhile isBlank

/-- The text up to its last character that is not blank. -/
def trimEnd (s : List Char) : List Char := (s.reverse.dropWhile isBlank).reverse

/-- The text without the blanks at its two ends. -/
def trim (s : List Char) : List Char := trimEnd (trimStart s)

/-- `trim` on strings. -/
def trimmed (s : String) : String := String.ofList (trim s.toList)

/-- One more character in front of the words of a text: a blank ends the word under way. -/
def pushWord (c : Char) : List (List Char) × List Char → List (List Char) × List Char
  | (done, open_) =>
    if isBlank c then
      (if open_.isEmpty then done else open_ :: done, [])
    else
      (done, c :: open_)

/-- The maximal runs of characters that are not blank, in order. -/
def words (s : List Char) : List (List Char) :=
  let (done, open_) := s.foldr pushWord ([], [])
  if open_.isEmpty then done else open_ :: done

theorem pushWord_ne_nil {c : Char} {st : List (List Char) × List Char}
    (h : ∀ w ∈ st.1, w ≠ []) : ∀ w ∈ (pushWord c st).1, w ≠ [] := by
  obtain ⟨done, open_⟩ := st
  intro w hw
  simp only [pushWord] at hw
  split at hw
  · split at hw
    · exact h w hw
    · rename_i ho
      rcases List.mem_cons.1 hw with rfl | hw
      · simpa using ho
      · exact h w hw
  · exact h w hw

/-- No word is empty. -/
theorem words_ne_nil (s : List Char) : ∀ w ∈ words s, w ≠ [] := by
  have key : ∀ w ∈ (s.foldr pushWord ([], [])).1, w ≠ [] := by
    induction s with
    | nil => simp
    | cons c s ih => exact pushWord_ne_nil ih
  intro w hw
  simp only [words] at hw
  split at hw
  · exact key w hw
  · rename_i ho
    rcases List.mem_cons.1 hw with rfl | hw
    · simpa using ho
    · exact key w hw

end Forum.Text
