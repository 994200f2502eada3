import Forum.Binary64
import Forum.Text.Integer
import Forum.Text.Letters

/-!
# Doubles from texts

* `Binary64.read`: digits with an optional point, exponent and sign, and the names of what is not
  finite;
* `Binary64.roundTo`: the nearest integer in a range.
-/

namespace Forum.Binary64

open Text

/-- The digits of an exponent after its letter, with a sign; no exponent is zero. -/
def exponent? : List Char → Option Int
  | [] => some 0
  | c :: s =>
    if c = 'e' ∨ c = 'E' then
      match s with
      | '-' :: s => (readNat s).map fun n => -(n : Int)
      | '+' :: s => (readNat s).map fun n => (n : Int)
      | s => (readNat s).map fun n => (n : Int)
    else none

/-- A number without its sign. -/
def unsigned? (neg : Bool) (s : List Char) : Option Binary64 :=
  let name := String.ofList (s.map lowerAscii)
  if name = "inf" ∨ name = "infinity" then some (infinite neg)
  else if name = "nan" then some nan
  else
    let whole := s.takeWhile Char.isDigit
    let rest := s.dropWhile Char.isDigit
    let (fraction, rest) := match rest with
      | '.' :: r => (r.takeWhile Char.isDigit, r.dropWhile Char.isDigit)
      | r => ([], r)
    if whole.isEmpty ∧ fraction.isEmpty then none
    else (exponent? rest).map fun e =>
      ofDecimal neg (digitsValue (whole ++ fraction)) (e - fraction.length)

/-- The double that a text spells. -/
def read : List Char → Option Binary64
  | '-' :: s => unsigned? true s
  | '+' :: s => unsigned? false s
  | s => unsigned? false s

/-- The nearest integer, as far as the range allows; zero for what is no number. -/
def roundTo (w : Width) (x : Binary64) : Int :=
  match x, x.round? with
  | _, some n => w.clamp n
  | infinite neg, none => if neg then w.lo else w.hi
  | _, none => 0

end Forum.Binary64
