/-!
# UTF-8

Octets are read one at a time by a machine that remembers an unfinished character.

* `encode`: the octets of a text;
* `pieces`: the characters of an octet string, with `none` for every maximal ill-formed piece;
* `decode?`, `decodeLossy`, `decodeStart`: a whole text, a text with U+FFFD for the ill-formed
  pieces, and the part before the first of them;
* **`decode?_encode`**: a text is read back from its octets.
-/

namespace Forum.Text.Utf8

/-- The octets of one character. -/
def encodeChar (c : Char) : List UInt8 :=
  let n := c.toNat
  if n < 0x80 then
    [.ofNat n]
  else if n < 0x800 then
    [.ofNat (0xC0 + n / 64), .ofNat (0x80 + n % 64)]
  else if n < 0x10000 then
    [.ofNat (0xE0 + n / 4096), .ofNat (0x80 + n / 64 % 64), .ofNat (0x80 + n % 64)]
  else
    [.ofNat (0xF0 + n / 262144), .ofNat (0x80 + n / 4096 % 64), .ofNat (0x80 + n / 64 % 64),
      .ofNat (0x80 + n % 64)]

/-- The octets of a text. -/
def encode (s : List Char) : List UInt8 := s.flatMap encodeChar

/-- A character under way: its bits so far, how many octets are missing, and the range of the next
one. -/
structure Unfinished where
  bits : Nat
  missing : Nat
  lo : Nat
  hi : Nat

/-- What has been read: the pieces, the last one first, and a character under way. -/
structure Reading where
  out : List (Option Char)
  open_ : Option Unfinished

/-- What an octet that starts a character leads to. -/
def Reading.start (out : List (Option Char)) (b : Nat) : Reading :=
  if b < 0x80 then ⟨some (.ofNat b) :: out, none⟩
  else if b < 0xC2 then ⟨none :: out, none⟩
  else if b < 0xE0 then ⟨out, some ⟨b - 0xC0, 1, 0x80, 0xBF⟩⟩
  else if b = 0xE0 then ⟨out, some ⟨0, 2, 0xA0, 0xBF⟩⟩
  else if b = 0xED then ⟨out, some ⟨0xD, 2, 0x80, 0x9F⟩⟩
  else if b < 0xF0 then ⟨out, some ⟨b - 0xE0, 2, 0x80, 0xBF⟩⟩
  else if b = 0xF0 then ⟨out, some ⟨0, 3, 0x90, 0xBF⟩⟩
  else if b < 0xF4 then ⟨out, some ⟨b - 0xF0, 3, 0x80, 0xBF⟩⟩
  else if b = 0xF4 then ⟨out, some ⟨4, 3, 0x80, 0x8F⟩⟩
  else ⟨none :: out, none⟩

/-- One more octet. An octet that cannot continue the character under way ends an ill-formed piece
and starts anew. -/
def Reading.push (r : Reading) (b : UInt8) : Reading :=
  match r.open_ with
  | none => .start r.out b.toNat
  | some u =>
    let b := b.toNat
    if u.lo ≤ b ∧ b ≤ u.hi then
      let bits := u.bits * 64 + (b - 0x80)
      if u.missing = 1 then ⟨some (.ofNat bits) :: r.out, none⟩
      else ⟨r.out, some ⟨bits, u.missing - 1, 0x80, 0xBF⟩⟩
    else .start (none :: r.out) b

/-- All pieces, the first one first; a character cut off at the end is ill-formed. -/
def Reading.finish (r : Reading) : List (Option Char) :=
  (if r.open_.isSome then none :: r.out else r.out).reverse

/-- The characters of an octet string, with `none` for every maximal ill-formed piece. -/
def pieces (b : List UInt8) : List (Option Char) := (b.foldl Reading.push ⟨[], none⟩).finish

/-- The text of well-formed octets. -/
def decode? (b : List UInt8) : Option (List Char) := (pieces b).mapM id

/-- Every ill-formed piece becomes U+FFFD. -/
def decodeLossy (b : List UInt8) : List Char := (pieces b).map (·.getD '\ufffd')

/-- The text before the first ill-formed piece, and whether there is one. -/
def decodeStart (b : List UInt8) : List Char × Bool :=
  let ps := pieces b
  ((ps.takeWhile Option.isSome).map (·.getD '\ufffd'), ps.any Option.isNone)

theorem toNat_octet {k : Nat} (h : k < 256) : (UInt8.ofNat k).toNat = k := by
  simp [Nat.mod_eq_of_lt h]

theorem push_none (out : List (Option Char)) {k : Nat} (h : k < 256) :
    Reading.push ⟨out, none⟩ (.ofNat k) = .start out k := by
  simp only [Reading.push, toNat_octet h]

/-- An octet in range continues the character under way. -/
theorem push_more (out : List (Option Char)) {v m lo hi k : Nat} (h : k < 256)
    (hk : lo ≤ k ∧ k ≤ hi) (hm : m ≠ 1) :
    Reading.push ⟨out, some ⟨v, m, lo, hi⟩⟩ (.ofNat k) =
      ⟨out, some ⟨v * 64 + (k - 0x80), m - 1, 0x80, 0xBF⟩⟩ := by
  simp only [Reading.push, toNat_octet h, if_pos hk, if_neg hm]

/-- The last octet in range completes it. -/
theorem push_last (out : List (Option Char)) {v lo hi k : Nat} (h : k < 256)
    (hk : lo ≤ k ∧ k ≤ hi) :
    Reading.push ⟨out, some ⟨v, 1, lo, hi⟩⟩ (.ofNat k) =
      ⟨some (.ofNat (v * 64 + (k - 0x80))) :: out, none⟩ := by
  simp only [Reading.push, toNat_octet h, if_pos hk, if_true]

/-- The octets of a character are read as that character. -/
theorem foldl_push_encodeChar (c : Char) (out : List (Option Char)) :
    (encodeChar c).foldl Reading.push ⟨out, none⟩ = ⟨some c :: out, none⟩ := by
  have hv : c.toNat < 0xD800 ∨ 0xDFFF < c.toNat ∧ c.toNat < 0x110000 := c.valid
  have eqc : ∀ k, k = c.toNat → Char.ofNat k = c := fun k hk => hk ▸ Char.ofNat_toNat c
  unfold encodeChar
  generalize hn : c.toNat = n at *
  simp only
  split
  · simp only [List.foldl_cons, List.foldl_nil]
    rw [push_none _ (by omega), Reading.start, if_pos (by omega), eqc _ rfl]
  split
  · simp only [List.foldl_cons, List.foldl_nil]
    rw [push_none _ (by omega), Reading.start, if_neg (by omega), if_neg (by omega),
      if_pos (by omega), push_last _ (by omega) (by omega), eqc _ (by omega)]
  split
  · simp only [List.foldl_cons, List.foldl_nil]
    rw [push_none _ (by omega), Reading.start, if_neg (by omega), if_neg (by omega),
      if_neg (by omega)]
    by_cases h0 : n / 4096 = 0
    · rw [if_pos (by omega), push_more _ (by omega) (by omega) (by omega),
        push_last _ (by omega) (by omega), eqc _ (by omega)]
    by_cases hD : n / 4096 = 0xD
    · rw [if_neg (by omega), if_pos (by omega), push_more _ (by omega) (by omega) (by omega),
        push_last _ (by omega) (by omega), eqc _ (by omega)]
    · rw [if_neg (by omega), if_neg (by omega), if_pos (by omega),
        push_more _ (by omega) (by omega) (by omega), push_last _ (by omega) (by omega),
        eqc _ (by omega)]
  · simp only [List.foldl_cons, List.foldl_nil]
    rw [push_none _ (by omega), Reading.start, if_neg (by omega), if_neg (by omega),
      if_neg (by omega), if_neg (by omega), if_neg (by omega), if_neg (by omega)]
    by_cases h0 : n / 262144 = 0
    · rw [if_pos (by omega), push_more _ (by omega) (by omega) (by omega),
        push_more _ (by omega) (by omega) (by omega), push_last _ (by omega) (by omega),
        eqc _ (by omega)]
    by_cases h4 : n / 262144 = 4
    · rw [if_neg (by omega), if_neg (by omega), if_pos (by omega),
        push_more _ (by omega) (by omega) (by omega), push_more _ (by omega) (by omega) (by omega),
        push_last _ (by omega) (by omega), eqc _ (by omega)]
    · rw [if_neg (by omega), if_pos (by omega), push_more _ (by omega) (by omega) (by omega),
        push_more _ (by omega) (by omega) (by omega), push_last _ (by omega) (by omega),
        eqc _ (by omega)]

theorem foldl_push_encode (s : List Char) (out : List (Option Char)) :
    (encode s).foldl Reading.push ⟨out, none⟩ = ⟨(s.map some).reverse ++ out, none⟩ := by
  induction s generalizing out with
  | nil => rfl
  | cons c s ih =>
    have : encode (c :: s) = encodeChar c ++ encode s := rfl
    rw [this, List.foldl_append, foldl_push_encodeChar, ih]
    simp

theorem pieces_encode (s : List Char) : pieces (encode s) = s.map some := by
  simp [pieces, foldl_push_encode, Reading.finish]

/-- A text is read back from its octets. -/
theorem decode?_encode (s : List Char) : decode? (encode s) = some s := by
  rw [decode?, pieces_encode]
  induction s with
  | nil => rfl
  | cons c s ih => simp_all [List.mapM_cons]

theorem decodeLossy_encode (s : List Char) : decodeLossy (encode s) = s := by
  simp [decodeLossy, pieces_encode, Function.comp_def]

end Forum.Text.Utf8
