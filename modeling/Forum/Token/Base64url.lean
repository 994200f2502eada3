/-!
# Base64 for URLs

Three octets are four characters of an alphabet of 64; there is no filling at the end, and bits that
no octet needs must be zero.

* `encode`, `decode?`;
* **`decode?_encode`**: octets are read back from their text.
-/

namespace Forum.Base64url

/-- The character of six bits. -/
def char (n : Nat) : Char :=
  if n < 26 then Char.ofNat (65 + n)
  else if n < 52 then Char.ofNat (71 + n)
  else if n < 62 then Char.ofNat (n - 4)
  else if n = 62 then '-'
  else '_'

/-- The six bits of a character. -/
def bits? (c : Char) : Option Nat :=
  let n := c.toNat
  if 65 ≤ n ∧ n ≤ 90 then some (n - 65)
  else if 97 ≤ n ∧ n ≤ 122 then some (n - 71)
  else if 48 ≤ n ∧ n ≤ 57 then some (n + 4)
  else if c = '-' then some 62
  else if c = '_' then some 63
  else none

/-- The text of octets. -/
def encode : List UInt8 → List Char
  | a :: b :: c :: s =>
    let n := (a.toNat * 256 + b.toNat) * 256 + c.toNat
    char (n / 262144) :: char (n / 4096 % 64) :: char (n / 64 % 64) :: char (n % 64) :: encode s
  | [a, b] =>
    let n := (a.toNat * 256 + b.toNat) * 4
    [char (n / 4096), char (n / 64 % 64), char (n % 64)]
  | [a] =>
    let n := a.toNat * 16
    [char (n / 64), char (n % 64)]
  | [] => []

/-- The octets of a text; none if it is no text of `encode`. -/
def decode? : List Char → Option (List UInt8)
  | a :: b :: c :: d :: s => do
    let a ← bits? a
    let b ← bits? b
    let c ← bits? c
    let d ← bits? d
    let n := ((a * 64 + b) * 64 + c) * 64 + d
    let rest ← decode? s
    return .ofNat (n / 65536) :: .ofNat (n / 256 % 256) :: .ofNat (n % 256) :: rest
  | [a, b, c] => do
    let a ← bits? a
    let b ← bits? b
    let c ← bits? c
    let n := (a * 64 + b) * 64 + c
    if n % 4 = 0 then some [.ofNat (n / 1024), .ofNat (n / 4 % 256)] else none
  | [a, b] => do
    let a ← bits? a
    let b ← bits? b
    let n := a * 64 + b
    if n % 16 = 0 then some [.ofNat (n / 16)] else none
  | [_] => none
  | [] => some []

theorem bits?_char : ∀ n, n < 64 → bits? (char n) = some n := by decide

theorem ofNat_toNat_octet (a : UInt8) {n : Nat} (h : n = a.toNat) : UInt8.ofNat n = a := by
  subst h; exact UInt8.ofNat_toNat

/-- Octets are read back from their text. -/
theorem decode?_encode (s : List UInt8) : decode? (encode s) = some s := by
  fun_induction encode s with
  | case1 a b c s n ih =>
    have ha := a.toNat_lt; have hb := b.toNat_lt; have hc := c.toNat_lt
    have hn : n < 16777216 := by omega
    rw [decode?, bits?_char _ (by omega), bits?_char _ (by omega), bits?_char _ (by omega),
      bits?_char _ (by omega), ih]
    simp only [bind, Option.bind, pure]
    rw [ofNat_toNat_octet a (by omega), ofNat_toNat_octet b (by omega),
      ofNat_toNat_octet c (by omega)]
  | case2 a b n =>
    have ha := a.toNat_lt; have hb := b.toNat_lt
    have hn : n < 262144 := by omega
    rw [decode?, bits?_char _ (by omega), bits?_char _ (by omega), bits?_char _ (by omega)]
    simp only [bind, Option.bind]
    rw [if_pos (by omega), ofNat_toNat_octet a (by omega), ofNat_toNat_octet b (by omega)]
  | case3 a n =>
    have ha := a.toNat_lt
    have hn : n < 4096 := by omega
    rw [decode?, bits?_char _ (by omega), bits?_char _ (by omega)]
    simp only [bind, Option.bind]
    rw [if_pos (by omega), ofNat_toNat_octet a (by omega)]
  | case4 => rfl

end Forum.Base64url
