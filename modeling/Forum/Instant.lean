import Forum.Json.Decoder
import Forum.Text.Blank

/-!
# Instants

A point in time in UTC: seconds since 1970-01-01 and nanoseconds. The second `60` of a minute is
kept as a billion nanoseconds or more after the second before it.

* `Date`, `Date.toDays`, `Date.ofDays`: the Gregorian calendar;
* `Instant.read`: a date and a time of day with an offset; blanks are allowed between the parts;
* `Instant.render`: the text in UTC with 0, 3, 6 or 9 digits of a second.
-/

namespace Forum

/-- A day of the Gregorian calendar. -/
structure Date where
  year : Int
  month : Nat
  day : Nat
deriving DecidableEq, Repr

namespace Date

/-- Every fourth year, except every hundredth, except every four hundredth. -/
def isLeap (year : Int) : Bool := year % 4 = 0 ∧ (year % 100 ≠ 0 ∨ year % 400 = 0)

/-- The number of days of a month. -/
def monthLength (year : Int) (month : Nat) : Nat :=
  if month = 2 then (if isLeap year then 29 else 28)
  else if month = 4 ∨ month = 6 ∨ month = 9 ∨ month = 11 then 30 else 31

/-- The years with dates. -/
def minYear : Int := -262143

/-- The last year with dates. -/
def maxYear : Int := 262142

/-- A day that exists. -/
def Valid (d : Date) : Prop :=
  minYear ≤ d.year ∧ d.year ≤ maxYear ∧ 1 ≤ d.month ∧ d.month ≤ 12 ∧ 1 ≤ d.day ∧
    d.day ≤ monthLength d.year d.month

instance (d : Date) : Decidable d.Valid := by unfold Valid; infer_instance

/-- Days since 1970-01-01. Years are counted from March, so that the leap day is the last one. -/
def toDays (d : Date) : Int :=
  let y := if d.month ≤ 2 then d.year - 1 else d.year
  let era := y / 400
  let yearOfEra := y - era * 400
  let monthFromMarch : Int := ((d.month : Int) + 9) % 12
  let dayOfYear := (153 * monthFromMarch + 2) / 5 + d.day - 1
  let dayOfEra := yearOfEra * 365 + yearOfEra / 4 - yearOfEra / 100 + dayOfYear
  era * 146097 + dayOfEra - 719468

/-- The day a number of days after 1970-01-01. -/
def ofDays (days : Int) : Date :=
  let z := days + 719468
  let era := z / 146097
  let dayOfEra := z - era * 146097
  let yearOfEra := (dayOfEra - dayOfEra / 1460 + dayOfEra / 36524 - dayOfEra / 146096) / 365
  let dayOfYear := dayOfEra - (365 * yearOfEra + yearOfEra / 4 - yearOfEra / 100)
  let mp := (5 * dayOfYear + 2) / 153
  let day := (dayOfYear - (153 * mp + 2) / 5 + 1).toNat
  let month := (if mp < 10 then mp + 3 else mp - 9).toNat
  ⟨yearOfEra + era * 400 + (if month ≤ 2 then 1 else 0), month, day⟩

end Date

/-- A point in time: seconds since 1970-01-01T00:00:00Z, and nanoseconds after them. -/
structure Instant where
  seconds : Int
  nanos : Nat
deriving DecidableEq, Repr

namespace Instant

open Text

/-- The nanoseconds of a second. -/
def billion : Nat := 1000000000

/-- The value of at most `width` digits, and the rest. -/
def digits? (width : Nat) (s : List Char) : Option (Nat × List Char) :=
  let d := (s.take width).takeWhile Char.isDigit
  if d.isEmpty then none else some (digitsValue d, s.drop d.length)

/-- A number after blanks. -/
def number? (width : Nat) (s : List Char) : Option (Nat × List Char) := digits? width (trimStart s)

/-- A separator after blanks. -/
def separator? (c : Char) (s : List Char) : Option (List Char) :=
  match trimStart s with
  | x :: s => if x = c then some s else none
  | [] => none

/-- A year: four digits at most, or a sign and any number of digits. -/
def year? (s : List Char) : Option (Int × List Char) :=
  match trimStart s with
  | '-' :: s => (digits? s.length s).map fun (n, s) => (-n, s)
  | '+' :: s => (digits? s.length s).map fun (n, s) => ((n : Int), s)
  | s => (digits? 4 s).map fun (n, s) => ((n : Int), s)

/-- The fraction of a second in nanoseconds; digits after the ninth are dropped. -/
def fraction? : List Char → Option (Nat × List Char)
  | '.' :: s =>
    let d := s.takeWhile Char.isDigit
    if d.isEmpty then none
    else
      let d9 := d.take 9
      some (digitsValue d9 * Nat.pow 10 (9 - d9.length), s.dropWhile Char.isDigit)
  | s => some (0, s)

/-- Two digits. -/
def pair? : List Char → Option (Nat × List Char)
  | a :: b :: s => if a.isDigit && b.isDigit then some (digitsValue [a, b], s) else none
  | _ => none

/-- An offset from UTC in seconds. -/
def offset? (s : List Char) : Option (Int × List Char) :=
  if (s.take 3).map lowerCase = ['u', 't', 'c'] then some (0, s.drop 3)
  else
    match s with
    | 'Z' :: s | 'z' :: s => some (0, s)
    | sign :: s => do
      let neg ← if sign = '+' then some false
        else if sign = '-' ∨ sign = '\u2212' then some true else none
      let (hours, s) ← pair? s
      let (minutes, s) ← pair? (s.dropWhile fun c => c = ':' || isBlank c)
      if 60 ≤ minutes then none
      else
        let n : Int := hours * 3600 + minutes * 60
        if 86400 ≤ n then none else some (if neg then -n else n, s)
    | [] => none
where
  /-- The 26 letters in small. -/
  lowerCase (c : Char) : Char := if 'A' ≤ c ∧ c ≤ 'Z' then Char.ofNat (c.toNat + 32) else c

/-- The instant that a text names. -/
def read (s : String) : Option Instant := do
  let (year, s) ← year? s.toList
  let s ← separator? '-' s
  let (month, s) ← number? 2 s
  let s ← separator? '-' s
  let (day, s) ← number? 2 s
  let s ← match s with
    | c :: s => if c = 'T' ∨ c = 't' ∨ c = ' ' then some s else none
    | [] => none
  let (hour, s) ← number? 2 s
  let s ← separator? ':' s
  let (minute, s) ← number? 2 s
  let s ← separator? ':' s
  let (second, s) ← number? 2 s
  let (nanos, s) ← fraction? s
  let (offset, s) ← offset? (trimStart s)
  if !(trimStart s).isEmpty then none
  else if ¬ (⟨year, month, day⟩ : Date).Valid then none
  else if 23 < hour ∨ 59 < minute ∨ 60 < second then none
  else
    let days := (⟨year, month, day⟩ : Date).toDays
    let (second, nanos) := if second = 60 then (59, nanos + billion) else (second, nanos)
    let at_ := days * 86400 + hour * 3600 + minute * 60 + second - offset
    let y := (Date.ofDays (at_ / 86400)).year
    if y < Date.minYear ∨ Date.maxYear < y then none else some ⟨at_, nanos⟩

/-- The digits of a fraction: as many of 0, 3, 6 and 9 as it needs. -/
def renderFraction (nanos : Nat) : List Char :=
  if nanos = 0 then []
  else if nanos % 1000000 = 0 then '.' :: padded 3 (nanos / 1000000 : Nat)
  else if nanos % 1000 = 0 then '.' :: padded 6 (nanos / 1000 : Nat)
  else '.' :: padded 9 nanos

/-- A year: four digits, or a sign where they do not suffice. -/
def renderYear (y : Int) : List Char :=
  if 0 ≤ y ∧ y ≤ 9999 then padded 4 y
  else if y < 0 then padded 5 y
  else '+' :: padded 4 y

/-- The text of an instant in UTC. -/
def render (t : Instant) : String :=
  let d := Date.ofDays (t.seconds / 86400)
  let s := (t.seconds % 86400).toNat
  let (second, nanos) :=
    if billion ≤ t.nanos then (s % 60 + 1, t.nanos - billion) else (s % 60, t.nanos)
  String.ofList <|
    renderYear d.year ++ '-' :: padded 2 d.month ++ '-' :: padded 2 d.day ++ 'T' ::
      padded 2 (s / 3600 : Nat) ++ ':' :: padded 2 (s / 60 % 60 : Nat) ++ ':' ::
      padded 2 second ++ renderFraction nanos ++ ['Z']

/-- The reading of an instant in JSON. -/
def decoder : Json.Decoder Instant := Json.Decoder.textOf read

/-- An instant in JSON. -/
def toJson (t : Instant) : Json := .text t.render

end Instant

end Forum
