/-!
# Double-precision numbers

A finite double is `± mant * 2 ^ expo` in the canonical form of the format: either
`2 ^ 52 ≤ mant < 2 ^ 53`, or `mant < 2 ^ 52` with the least exponent.

* `ofRatio`, `ofDecimal`: the double nearest to a quotient or to a decimal, ties to even;
* `mul`, `div`: exact results rounded once;
* `shortest`: the fewest decimal digits that read back as the same double.
-/

namespace Forum

/-- A double-precision number. -/
inductive Binary64 where
  | finite (neg : Bool) (mant : Nat) (expo : Int)
  | infinite (neg : Bool)
  | nan
deriving DecidableEq, Repr

namespace Binary64

/-- The least exponent. -/
def minExpo : Int := -1074

/-- The greatest exponent. -/
def maxExpo : Int := 971

/-- The least significand of full precision: `2 ^ 52`. -/
def fullMant : Nat := 4503599627370496

/-- A power of two; 1 for a negative exponent. -/
def twoTo (k : Int) : Nat := Nat.pow 2 k.toNat

/-- A power of ten; 1 for a negative exponent. -/
def tenTo (k : Int) : Nat := Nat.pow 10 k.toNat

/-- The zero of a sign. -/
def zero (neg : Bool) : Binary64 := .finite neg 0 minExpo

/-- `num / den` to the nearest integer, ties to even. -/
def roundDiv (num den : Nat) : Nat :=
  let q := num / den
  let r := num % den
  if 2 * r < den then q else if den < 2 * r then q + 1 else q + q % 2

/-- `num / den / 2 ^ expo` as a numerator and a denominator. -/
def scaled (num den : Nat) (expo : Int) : Nat × Nat :=
  (num * twoTo (-expo), den * twoTo expo)

/-- The exponent at which a quotient has 53 binary digits before the point, or the least one. -/
def ratioExpo (num den : Nat) : Int :=
  let e := (num.log2 : Int) - den.log2 - 53
  let (n, d) := scaled num den e
  max minExpo (if 2 * fullMant ≤ n / d then e + 1 else e)

/-- The double nearest to `± num / den`. -/
def ofRatio (neg : Bool) (num den : Nat) : Binary64 :=
  if num = 0 then zero neg
  else
    let e := ratioExpo num den
    let (n, d) := scaled num den e
    let m := roundDiv n d
    let (m, e) := if m = 2 * fullMant then (fullMant, e + 1) else (m, e)
    if maxExpo < e then .infinite neg else .finite neg m e

/-- The double nearest to `± digits * 10 ^ expo`. Beyond the range of the format no power of ten is
computed. -/
def ofDecimal (neg : Bool) (digits : Nat) (expo : Int) : Binary64 :=
  let size := (digits.repr.length : Int) + expo
  if digits = 0 ∨ size < -330 then zero neg
  else if 310 < size then .infinite neg
  else ofRatio neg (digits * tenTo expo) (tenTo (-expo))

/-- The double nearest to `± mant * 2 ^ expo`. -/
def ofDyadic (neg : Bool) (mant : Nat) (expo : Int) : Binary64 :=
  ofRatio neg (mant * twoTo expo) (twoTo (-expo))

/-- The product of two doubles, rounded once. -/
def mul : Binary64 → Binary64 → Binary64
  | finite s m e, finite t n f => ofDyadic (s ^^ t) (m * n) (e + f)
  | nan, _ | _, nan => nan
  | infinite s, finite t n _ | finite t n _, infinite s => if n = 0 then nan else infinite (s ^^ t)
  | infinite s, infinite t => infinite (s ^^ t)

/-- The quotient of two doubles, rounded once. -/
def div : Binary64 → Binary64 → Binary64
  | finite s m e, finite t n f =>
    if n = 0 then (if m = 0 then nan else infinite (s ^^ t))
    else ofRatio (s ^^ t) (m * twoTo (e - f)) (n * twoTo (f - e))
  | nan, _ | _, nan => nan
  | infinite s, finite t _ _ => infinite (s ^^ t)
  | finite s _ _, infinite t => zero (s ^^ t)
  | infinite _, infinite _ => nan

/-- The opposite sign. -/
def negate : Binary64 → Binary64
  | finite s m e => finite (!s) m e
  | infinite s => infinite (!s)
  | nan => nan

/-- The nearest integer, halves away from zero; none for what is not finite. -/
def round? : Binary64 → Option Int
  | finite s m e =>
    let n : Nat := (2 * m * twoTo e + twoTo (-e)) / (2 * twoTo (-e))
    some (if s then -n else n)
  | _ => none

/-! ## Shortest decimals -/

/-- Digits with a power of ten: `digits * 10 ^ expo`. -/
structure Decimal where
  digits : Nat
  expo : Int
deriving DecidableEq, Repr

/-- The number of digits before the decimal point: `10 ^ (k - 1) ≤ mant * 2 ^ expo < 10 ^ k`. -/
def magnitude (mant : Nat) (expo : Int) : Int :=
  ((mant * twoTo expo * tenTo 400 / twoTo (-expo)).repr.length : Int) - 400

/-- Is `c * 10 ^ g` nearest to `mant * 2 ^ expo` among the doubles? The interval of those numbers is
closed if `mant` is even. -/
def readsBack (mant : Nat) (expo : Int) (c : Nat) (g : Int) : Bool :=
  let below := if mant = fullMant ∧ minExpo < expo then 4 * mant - 1 else 4 * mant - 2
  let a := twoTo (expo - 2) * tenTo (-g)
  let b := twoTo (2 - expo) * tenTo g
  if mant % 2 = 0 then below * a ≤ c * b ∧ c * b ≤ (4 * mant + 2) * a
  else below * a < c * b ∧ c * b < (4 * mant + 2) * a

/-- The point of the grid `10 ^ g` that reads back as the double, the nearer one of two. -/
def gridPoint? (mant : Nat) (expo : Int) (g : Int) : Option Nat :=
  let a := mant * twoTo expo * tenTo (-g)
  let b := twoTo (-expo) * tenTo g
  let c := a / b
  match readsBack mant expo c g, readsBack mant expo (c + 1) g with
  | true, true => some (roundDiv a b)
  | true, false => some c
  | false, true => some (c + 1)
  | false, false => none

/-- A decimal without zeros at its end. -/
def Decimal.strip : Nat → Decimal → Decimal
  | 0, d => d
  | fuel + 1, d =>
    if d.digits ≠ 0 ∧ d.digits % 10 = 0 then strip fuel ⟨d.digits / 10, d.expo + 1⟩ else d

/-- The shortest decimal that reads back as `mant * 2 ^ expo`: the coarsest grid with a hit.
Seventeen digits always suffice. -/
def shortest (mant : Nat) (expo : Int) : Decimal :=
  let k := magnitude mant expo
  let hit := (List.range 17).findSome? fun (n : Nat) =>
    let g := k - (n + 1 : Nat)
    (gridPoint? mant expo g).map fun c => (⟨c, g⟩ : Decimal)
  (hit.getD ⟨0, 0⟩).strip 17

/-- Digits with a point after the first `k` of them, filled with zeros where there are too few; an
integer has `whole` after its digits. -/
def positional (whole : List Char) (d : Decimal) : List Char :=
  let digits := d.digits.repr.toList
  let k := (digits.length : Int) + d.expo
  if 0 ≤ d.expo then
    digits ++ List.replicate d.expo.toNat '0' ++ whole
  else if 0 < k then
    digits.take k.toNat ++ '.' :: digits.drop k.toNat
  else
    '0' :: '.' :: (List.replicate (-k).toNat '0' ++ digits)

/-- A minus sign for a negative number. -/
def signed (neg : Bool) (s : List Char) : List Char := if neg then '-' :: s else s

/-- The plain text of a double: never an exponent, and no point in an integer. -/
def plain : Binary64 → List Char
  | nan => "NaN".toList
  | infinite neg => signed neg "inf".toList
  | finite neg m e => signed neg (if m = 0 then ['0'] else positional [] (shortest m e))

/-- The text of a finite double in JSON: positional if its first digit has a place between `10 ^ -5`
and `10 ^ 15`, and otherwise one digit before the point and an exponent. -/
def jsonText : Binary64 → List Char
  | finite neg m e =>
    signed neg <|
      if m = 0 then "0.0".toList
      else
        let d := shortest m e
        let digits := d.digits.repr.toList
        let k := (digits.length : Int) + d.expo
        if -5 < k ∧ k ≤ 16 then positional ".0".toList d
        else
          let fraction := if digits.length ≤ 1 then [] else '.' :: digits.drop 1
          digits.take 1 ++ fraction ++ 'e' :: (k - 1).repr.toList
  | _ => "null".toList

end Binary64

end Forum
