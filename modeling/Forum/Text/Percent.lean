import Forum.Text.Utf8

/-!
# Percent encoding

* `hexValue`: a hexadecimal digit;
* `decode`: `%` before two hexadecimal digits stands for an octet; any other `%` for itself;
* `formPairs`: the fields of an `application/x-www-form-urlencoded` text.
-/

namespace Forum.Text.Percent

/-- The value of a hexadecimal digit. -/
def hexValue (c : Char) : Option Nat :=
  if '0' ≤ c ∧ c ≤ '9' then some (c.toNat - 48)
  else if 'a' ≤ c ∧ c ≤ 'f' then some (c.toNat - 87)
  else if 'A' ≤ c ∧ c ≤ 'F' then some (c.toNat - 55)
  else none

/-- The value of some hexadecimal digits, if it is a character. -/
def hexChar? (digits : List Char) : Option Char := do
  let n ← digits.foldlM (fun n c => (hexValue c).map (16 * n + ·)) 0
  if n < 0xD800 ∨ (0xDFFF < n ∧ n < 0x110000) then some (Char.ofNat n) else none

/-- The octet that `%` before these two characters stands for. -/
def octet? (a b : Char) : Option UInt8 := do
  let x ← hexValue a
  let y ← hexValue b
  return .ofNat (16 * x + y)

/-- The octets of a percent-encoded text. -/
def decode : List Char → List UInt8
  | '%' :: a :: b :: s =>
    match octet? a b with
    | some o => o :: decode s
    | none => Utf8.encodeChar '%' ++ decode (a :: b :: s)
  | c :: s => Utf8.encodeChar c ++ decode s
  | [] => []

/-- The text of a form field: a plus sign is a space, and ill-formed octets become U+FFFD. -/
def formText (s : List Char) : String :=
  String.ofList (Utf8.decodeLossy (decode (s.map fun c => if c = '+' then ' ' else c)))

/-- One piece of a form between two `&`: a name, and a value after the first `=`. -/
def formPair (s : List Char) : String × String :=
  (formText (s.takeWhile (· != '=')), formText ((s.dropWhile (· != '=')).drop 1))

/-- The fields of a form, in order; empty pieces are no fields. -/
def formPairs (s : List Char) : List (String × String) :=
  ((s.splitOn '&').filter (!·.isEmpty)).map formPair

end Forum.Text.Percent
