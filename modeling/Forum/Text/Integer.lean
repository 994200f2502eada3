/-!
# Integers in texts

* `digitValue`, `readNat`: plain decimal digits, ASCII only;
* `Width`: a fixed-width integer type by its least and greatest value, with `Width.read` and
  `Width.wrap`;
* `padded`: a number with zeros in front up to a width that counts the sign.
-/

namespace Forum.Text

/-- The value of an ASCII digit. -/
def digitValue (c : Char) : Nat := c.toNat - '0'.toNat

/-- The value of a run of digits, the most significant first. -/
def digitsValue (s : List Char) : Nat := s.foldl (fun n c => 10 * n + digitValue c) 0

/-- One or more ASCII digits and nothing else. -/
def readNat (s : List Char) : Option Nat :=
  if !s.isEmpty && s.all Char.isDigit then some (digitsValue s) else none

/-- A fixed-width integer type. -/
structure Width where
  lo : Int
  hi : Int
deriving DecidableEq, Repr

namespace Width

def int16 : Width := ⟨-32768, 32767⟩
def int32 : Width := ⟨-2147483648, 2147483647⟩
def int64 : Width := ⟨-9223372036854775808, 9223372036854775807⟩
def nat16 : Width := ⟨0, 65535⟩
def nat32 : Width := ⟨0, 4294967295⟩
def nat64 : Width := ⟨0, 18446744073709551615⟩

/-- The value, if it is in range. -/
def fit (w : Width) (n : Int) : Option Int := if w.lo ≤ n ∧ n ≤ w.hi then some n else none

/-- The integer in range that is nearest. -/
def clamp (w : Width) (n : Int) : Int := max w.lo (min n w.hi)

/-- The integer in range that arithmetic which wraps around has for a value. -/
def wrap (w : Width) (n : Int) : Int := w.lo + (n - w.lo) % (w.hi - w.lo + 1)

/-- What is in range does not wrap. -/
theorem wrap_of_bounds {w : Width} {n : Int} (h : w.lo ≤ n ∧ n ≤ w.hi) : w.wrap n = n := by
  have hmod : (n - w.lo) % (w.hi - w.lo + 1) = n - w.lo :=
    Int.emod_eq_of_lt (by omega) (by omega)
  rw [wrap, hmod]
  omega

/-- The integer a text spells: digits after an optional sign, where a minus sign is only for types
with negative values. -/
def read (w : Width) (s : List Char) : Option Int :=
  match s with
  | '+' :: s => (readNat s).bind fun n => w.fit n
  | '-' :: s => if w.lo < 0 then (readNat s).bind fun n => w.fit (-n) else none
  | s => (readNat s).bind fun n => w.fit n

theorem fit_eq_some {w : Width} {n k : Int} (h : w.fit n = some k) : w.lo ≤ k ∧ k ≤ w.hi := by
  unfold fit at h
  split at h
  · cases h; assumption
  · cases h

end Width

/-- The decimal text of an integer. -/
def decimal (n : Int) : List Char := n.repr.toList

/-- The decimal text of `n`, with zeros after the sign so that it has at least `width` characters,
sign included. -/
def padded (width : Nat) (n : Int) : List Char :=
  let digits := n.natAbs.repr.toList
  if n < 0 then
    '-' :: (List.replicate (width - 1 - digits.length) '0' ++ digits)
  else
    List.replicate (width - digits.length) '0' ++ digits

end Forum.Text
