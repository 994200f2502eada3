import Forum.Json.Value
import Forum.Text.Integer
import Forum.Text.Percent

/-!
# JSON texts

A text is read as far as it is well formed. What is read is a `Doc`: a tree that keeps every member
in the order of the text and marks the place where the text breaks off. So a typed reading can tell
which of two faults of a text comes first.

* `Doc`, `Ending`;
* `Doc.value`: the document at the start of a text;
* `Doc.ofText`, `Doc.ofOctets`: the document of a whole text, with what follows it checked.
-/

namespace Forum.Json

/-- How a list or an object ends in the text: with its bracket; with a value of another kind where a
name should stand; or in any other way. -/
inductive Ending where
  | closed
  | oddName
  | broken
deriving DecidableEq, Repr

/-- A text as far as it is well formed. A text or a name that spells half of a surrogate pair, and a
number beyond the doubles, are `none`: they can be passed over but have no value. -/
inductive Doc where
  | null
  | bool (b : Bool)
  | number (n : Option Number)
  | text (s : Option String)
  | list (items : List Doc) (ending : Ending)
  | object (members : List (Option String × Doc)) (ending : Ending)
  | broken

namespace Doc

/-- The blanks of JSON. -/
def isSpace (c : Char) : Bool := c = ' ' || c = '\t' || c = '\n' || c = '\r'

/-- The text after its leading blanks. -/
def skip (s : List Char) : List Char := s.dropWhile isSpace

/-! ## Numbers -/

/-- The parts of a number: whole digits, digits after the point, and a signed exponent. -/
structure Numeral where
  neg : Bool
  whole : List Char
  fraction : Option (List Char)
  expo : Option (Bool × List Char)

/-- The whole digits: a single zero, or digits that do not start with one. -/
def wholeDigits? (s : List Char) : Option (List Char × List Char) :=
  let digits := s.takeWhile Char.isDigit
  let rest := s.dropWhile Char.isDigit
  match digits with
  | [] => none
  | '0' :: _ :: _ => none
  | _ => some (digits, rest)

/-- A point and the digits after it, if there is a point. -/
def fraction? : List Char → Option (Option (List Char) × List Char)
  | '.' :: s =>
    let digits := s.takeWhile Char.isDigit
    if digits.isEmpty then none else some (some digits, s.dropWhile Char.isDigit)
  | s => some (none, s)

/-- The exponent, if there is one; it is marked when negative. -/
def exponent? : List Char → Option (Option (Bool × List Char) × List Char)
  | c :: s =>
    if c = 'e' ∨ c = 'E' then
      let (neg, s) := match s with
        | '-' :: s => (true, s)
        | '+' :: s => (false, s)
        | s => (false, s)
      let digits := s.takeWhile Char.isDigit
      if digits.isEmpty then none else some (some (neg, digits), s.dropWhile Char.isDigit)
    else some (none, c :: s)
  | [] => some (none, [])

/-- The number at the start of a text. -/
def numeral? (s : List Char) : Option (Numeral × List Char) := do
  let (neg, s) := match s with
    | '-' :: s => (true, s)
    | s => (false, s)
  let (whole, s) ← wholeDigits? s
  let (fraction, s) ← fraction? s
  let (expo, s) ← exponent? s
  return (⟨neg, whole, fraction, expo⟩, s)

/-- The greatest significand. -/
def maxSignificand : Nat := 18446744073709551615

/-- Digits appended to a significand as long as it fits into 64 bits, and the digits left over. -/
def significand (n : Nat) : List Char → Nat × List Char
  | [] => (n, [])
  | c :: s =>
    let m := 10 * n + Text.digitValue c
    if maxSignificand < m then (n, c :: s) else significand m s

/-- A significand times a power of ten. Both factors are rounded to doubles first; an exponent below
-308 is applied in steps. None beyond the greatest double. -/
def scale (fuel : Nat) (f : Binary64) (expo : Int) : Option Binary64 :=
  if expo.natAbs ≤ 308 then
    let power := Binary64.ofDecimal false 1 expo.natAbs
    if 0 ≤ expo then
      match f.mul power with
      | .infinite _ => none
      | x => some x
    else some (f.div power)
  else if f = .zero false then some f
  else if 0 ≤ expo then none
  else
    match fuel with
    | 0 => some (.zero false)
    | fuel + 1 => scale fuel (f.div (.ofDecimal false 1 308)) (expo + 308)

/-- The double of a number with a point or an exponent, or with too many digits: the digits that fit
into a significand of 64 bits, scaled. -/
def Numeral.float? (d : Numeral) : Option Binary64 :=
  let (n, dropped) := significand 0 d.whole
  let fraction := d.fraction.getD []
  let (n, unread) := significand n fraction
  let shift : Int := dropped.length - (fraction.length - unread.length : Nat)
  let signed (x : Binary64) := if d.neg then x.negate else x
  let (down, expo) := d.expo.getD (false, ['0'])
  let size := Text.digitsValue expo
  if Text.Width.int32.hi < size then
    if n ≠ 0 ∧ !down then none else some (signed (.zero false))
  else
    let expo := Text.Width.int32.clamp (if down then shift - size else shift + size)
    (scale 4 (.ofDecimal false n 0) expo).map signed

/-- The value of a number. Digits alone are an integer if they fit into 64 bits; minus zero does
not. -/
def Numeral.value? (d : Numeral) : Option Number :=
  let n : Int := Text.digitsValue d.whole
  let fits := if d.neg then 0 < n && Text.Width.int64.lo ≤ -n else n ≤ Text.Width.nat64.hi
  if d.fraction.isNone && d.expo.isNone && fits then some (.int (if d.neg then -n else n))
  else d.float?.map .float

/-! ## Quoted texts -/

/-- The value of four hexadecimal digits. -/
def hex4? (a b c d : Char) : Option Nat := do
  let a ← Text.Percent.hexValue a
  let b ← Text.Percent.hexValue b
  let c ← Text.Percent.hexValue c
  let d ← Text.Percent.hexValue d
  return ((a * 16 + b) * 16 + c) * 16 + d

/-- The character of a surrogate pair. -/
def surrogatePair (high low : Nat) : Char :=
  Char.ofNat (0x10000 + (high - 0xD800) * 0x400 + (low - 0xDC00))

/-- The character after a backslash, if it stands for one by itself. -/
def shortEscape? (c : Char) : Option Char :=
  if c = '"' ∨ c = '\\' ∨ c = '/' then some c
  else if c = 'b' then some '\x08'
  else if c = 'f' then some '\x0c'
  else if c = 'n' then some '\n'
  else if c = 'r' then some '\r'
  else if c = 't' then some '\t'
  else none

/-- One unit of a quoted text: the end, a character, half of a surrogate pair, or nothing that may
stand there. -/
inductive Unit where
  | closing
  | char (c : Char)
  | half
  | bad

/-- The unit at the start of a text, and what follows it. -/
def unit : List Char → Unit × List Char
  | '"' :: s => (.closing, s)
  | '\\' :: 'u' :: a :: b :: c :: d :: s =>
    match hex4? a b c d with
    | none => (.bad, s)
    | some n =>
      if n < 0xD800 ∨ 0xDFFF < n then (.char (.ofNat n), s)
      else if 0xDC00 ≤ n then (.half, s)
      else
        match s with
        | '\\' :: 'u' :: a :: b :: c :: d :: r =>
          match hex4? a b c d with
          | some m => if 0xDC00 ≤ m ∧ m ≤ 0xDFFF then (.char (surrogatePair n m), r) else (.half, s)
          | none => (.half, s)
        | _ => (.half, s)
  | '\\' :: c :: s =>
    match shortEscape? c with
    | some e => (.char e, s)
    | none => (.bad, s)
  | c :: s => if c.toNat < 32 ∨ c = '\\' then (.bad, s) else (.char c, s)
  | [] => (.bad, [])

/-- The units up to the closing quote, gathered in reverse, and the rest; none if the text breaks
off before. No unit is empty, so as much fuel as there are characters is enough. -/
def quoted (fuel : Nat) (whole : Bool) (acc : List Char) (s : List Char) :
    Option (Option String × List Char) :=
  match fuel with
  | 0 => none
  | fuel + 1 =>
    match unit s with
    | (.closing, s) => some (if whole then some (String.ofList acc.reverse) else none, s)
    | (.char c, s) => quoted fuel whole (c :: acc) s
    | (.half, s) => quoted fuel false acc s
    | (.bad, _) => none

/-! ## Documents -/

/-- A number, `null`, `true` or `false` at the start of a text. -/
def atom (s : List Char) : Doc × Option (List Char) :=
  match s with
  | 'n' :: 'u' :: 'l' :: 'l' :: s => (null, some s)
  | 't' :: 'r' :: 'u' :: 'e' :: s => (bool true, some s)
  | 'f' :: 'a' :: 'l' :: 's' :: 'e' :: s => (bool false, some s)
  | s =>
    match numeral? s with
    | some (n, s) => (number n.value?, some s)
    | none => (broken, none)

/-- Why no name stands at the start of a text. -/
def nameless : List Char → Ending
  | '[' :: _ | '{' :: _ => .oddName
  | s => if (atom s).2.isSome then .oddName else .broken

mutual

/-- The document at the start of a text, and the text after it if it is whole. Every second step
takes a character, so twice as much fuel as there are characters is enough. -/
def value : Nat → List Char → Doc × Option (List Char)
  | 0, _ => (broken, none)
  | fuel + 1, s =>
    match skip s with
    | '"' :: s =>
      match quoted fuel true [] s with
      | some (t, s) => (text t, some s)
      | none => (broken, none)
    | '[' :: s =>
      match skip s with
      | ']' :: s => (list [] .closed, some s)
      | s =>
        let (xs, rest) := items fuel s
        (list xs (if rest.isSome then .closed else .broken), rest)
    | '{' :: s =>
      match skip s with
      | '}' :: s => (object [] .closed, some s)
      | s =>
        let (ms, ending, rest) := members fuel s
        (object ms ending, rest)
    | s => atom s

/-- The items up to the closing bracket. -/
def items : Nat → List Char → List Doc × Option (List Char)
  | 0, _ => ([], none)
  | fuel + 1, s =>
    match value fuel s with
    | (x, none) => ([x], none)
    | (x, some s) =>
      match skip s with
      | ',' :: s =>
        let (xs, rest) := items fuel s
        (x :: xs, rest)
      | ']' :: s => ([x], some s)
      | _ => ([x], none)

/-- The members up to the closing brace. -/
def members : Nat → List Char → List (Option String × Doc) × Ending × Option (List Char)
  | 0, _ => ([], .broken, none)
  | fuel + 1, s =>
    match skip s with
    | '"' :: s =>
      match quoted fuel true [] s with
      | none => ([], .broken, none)
      | some (name, s) =>
        match skip s with
        | ':' :: s =>
          match value fuel s with
          | (x, none) => ([(name, x)], .broken, none)
          | (x, some s) =>
            match skip s with
            | ',' :: s =>
              let (ms, ending, rest) := members fuel s
              ((name, x) :: ms, ending, rest)
            | '}' :: s => ([(name, x)], .closed, some s)
            | _ => ([(name, x)], .broken, none)
        | _ => ([(name, broken)], .broken, none)
    | s => ([], nameless s, none)

end

/-- The document of a text, and whether nothing but blanks follows it. -/
def ofText (s : List Char) : Doc × Bool :=
  match value (2 * s.length + 2) s with
  | (d, some s) => (d, (skip s).isEmpty)
  | (d, none) => (d, false)

/-- The document of octets. A text breaks off where it is not UTF-8. -/
def ofOctets (b : List UInt8) : Doc × Bool :=
  let (s, bad) := Text.Utf8.decodeStart b
  let (d, clean) := ofText s
  (d, clean && !bad)

/-- Is the document whole, with every bracket closed? Values inside are not looked at. -/
def isWhole : Doc → Bool
  | list xs ending => ending = .closed && allWhole xs
  | object ms ending => ending = .closed && allWholeMembers ms
  | broken => false
  | _ => true
where
  allWhole : List Doc → Bool
    | [] => true
    | x :: xs => x.isWhole && allWhole xs
  allWholeMembers : List (Option String × Doc) → Bool
    | [] => true
    | (_, x) :: ms => x.isWhole && allWholeMembers ms

/-- The document of a value. -/
def ofJson : Json → Doc
  | .null => null
  | .bool b => bool b
  | .number n => number n
  | .text s => text s
  | .list xs => list (ofItems xs) .closed
  | .members ms => object (ofMembers ms) .closed
where
  ofItems : List Json → List Doc
    | [] => []
    | x :: xs => ofJson x :: ofItems xs
  ofMembers : List (String × Json) → List (Option String × Doc)
    | [] => []
    | (n, x) :: ms => (some n, ofJson x) :: ofMembers ms

end Doc

end Forum.Json
