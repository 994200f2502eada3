import Forum.Instant

/-!
# Times of TOML

A day, a time of day, or both, then perhaps with an offset from UTC. Each has one text: the letters
in capitals, and a fraction of a second without zeros at its end.

* `Clock`, `Zone`, `Time`: the parts of a time;
* `Time.read`: the time that a text spells;
* `Time.render`: the text of a time.
-/

namespace Forum.Toml

open Text

/-- The rest after one character. -/
def after? (c : Char) : List Char → Option (List Char)
  | x :: s => if x = c then some s else none
  | [] => none

/-- A number of two digits up to a greatest one, and the rest. -/
def pair? (hi : Nat) (s : List Char) : Option (Nat × List Char) := do
  let (n, s) ← Instant.pair? s
  if n ≤ hi then some (n, s) else none

/-- A time of day. It may end with the minute, and the second may have a fraction, in
nanoseconds. -/
structure Clock where
  hour : Nat
  minute : Nat
  second : Option (Nat × Option Nat) := none
deriving DecidableEq, Repr

namespace Clock

/-- A time of day, and the rest. A minute may have a second `60`. -/
def read (s : List Char) : Option (Clock × List Char) := do
  let (hour, s) ← pair? 23 s
  let (minute, s) ← pair? 59 (← after? ':' s)
  match s with
  | ':' :: s =>
    let (second, s) ← pair? 60 s
    match s with
    | '.' :: _ =>
      let (nanos, rest) ← Instant.fraction? s
      return (⟨hour, minute, some (second, some nanos)⟩, rest)
    | _ => return (⟨hour, minute, some (second, none)⟩, s)
  | _ => return (⟨hour, minute, none⟩, s)

/-- The digits of a fraction: nine without the zeros at the end, but always one. -/
def renderFraction (nanos : Nat) : List Char :=
  let digits := padded 9 nanos
  digits.take 1 ++ ((digits.drop 1).reverse.dropWhile (· = '0')).reverse

/-- The text of a time of day. -/
def render (c : Clock) : List Char :=
  padded 2 c.hour ++ ':' :: padded 2 c.minute ++
    match c.second with
    | none => []
    | some (second, none) => ':' :: padded 2 second
    | some (second, some nanos) => ':' :: padded 2 second ++ '.' :: renderFraction nanos

end Clock

/-- Where a time of day holds: in UTC, or at an offset from it in minutes. -/
inductive Zone where
  | utc
  | offset (minutes : Int)
deriving DecidableEq, Repr

namespace Zone

/-- An offset without its sign, up to the end of the text. -/
def minutes? (s : List Char) : Option Nat := do
  let (hours, s) ← pair? 23 s
  let (minutes, s) ← pair? 59 (← after? ':' s)
  if s.isEmpty then some (60 * hours + minutes) else none

/-- A whole text; the empty one names no zone. -/
def read : List Char → Option (Option Zone)
  | [] => some none
  | ['Z'] | ['z'] => some (some utc)
  | '+' :: s => (minutes? s).map fun n => some (offset n)
  | '-' :: s => (minutes? s).map fun n => some (offset (-n))
  | _ => none

/-- The text of a zone. -/
def render : Zone → List Char
  | utc => ['Z']
  | offset n =>
    (if n < 0 then '-' else '+') :: padded 2 (n.natAbs / 60 : Nat) ++ ':' ::
      padded 2 (n.natAbs % 60 : Nat)

end Zone

/-- A day, a time of day, or both. -/
inductive Time where
  | date (d : Date)
  | clock (c : Clock)
  | moment (d : Date) (c : Clock) (z : Option Zone)
deriving DecidableEq, Repr

namespace Time

/-- A year of four digits, and the rest. -/
def year? (s : List Char) : Option (Nat × List Char) := do
  let (century, s) ← Instant.pair? s
  let (year, s) ← Instant.pair? s
  return (100 * century + year, s)

/-- A day that exists, and the rest. -/
def date? (s : List Char) : Option (Date × List Char) := do
  let (year, s) ← year? s
  let (month, s) ← pair? 12 (← after? '-' s)
  let (day, s) ← pair? 31 (← after? '-' s)
  let d : Date := ⟨year, month, day⟩
  if d.Valid then some (d, s) else none

/-- The time that a text spells. Between the day and the time of day stands a letter or a space. -/
def read (s : List Char) : Option Time :=
  match date? s with
  | some (d, []) => some (date d)
  | some (d, c :: s) =>
    if c = 'T' ∨ c = 't' ∨ c = ' ' then do
      let (c, s) ← Clock.read s
      return moment d c (← Zone.read s)
    else none
  | none =>
    match Clock.read s with
    | some (c, []) => some (clock c)
    | _ => none

/-- The text of a day. -/
def renderDate (d : Date) : List Char :=
  padded 4 d.year ++ '-' :: padded 2 d.month ++ '-' :: padded 2 d.day

/-- The text of a time. -/
def render : Time → List Char
  | date d => renderDate d
  | clock c => c.render
  | moment d c z => renderDate d ++ 'T' :: c.render ++ (z.map Zone.render).getD []

end Time

end Forum.Toml
