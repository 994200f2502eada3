import Forum.Binary64.Reading
import Forum.Text.Blank
import Forum.Text.Pattern

/-!
# Log filters

A filter is a list of directives between commas: a level, or a target, perhaps with a span and a
field in brackets, and a level after `=`.

* `LogField`: a field by its name, and perhaps by its value or a pattern for it;
* `LogDirective.read`, `LogDirective.text`;
* `LogDirective.order`: how specific a directive is;
* `LogFilter.read`: the directives of a text, the more specific ones first;
* `LogFilter.choose`: the first of the given texts that is a filter.
-/

namespace Forum

/-- How much is logged. -/
inductive LogLevel where
  | off
  | error
  | warn
  | info
  | debug
  | trace
deriving DecidableEq, Repr

namespace LogLevel

def all : List LogLevel := [off, error, warn, info, debug, trace]

def name : LogLevel → String
  | off => "off"
  | error => "error"
  | warn => "warn"
  | info => "info"
  | debug => "debug"
  | trace => "trace"

/-- The level of a name in any case, of a number, or of the empty text. -/
def read (s : List Char) : Option LogLevel :=
  match Text.Width.nat64.read s with
  | some n => all[n.toNat]?
  | none =>
    if s.isEmpty then some error
    else all.find? fun l => Text.equalAscii l.name (String.ofList s)

end LogLevel

/-- What a directive asks of the value of a field. -/
inductive LogValue where
  | bool (b : Bool)
  | float (x : Binary64)
  | int (n : Int)
  | nat (n : Int)
  | pattern (p : List Char)
deriving DecidableEq, Repr

namespace LogValue

/-- The value that a text spells, or else the pattern that it is. -/
def read (s : List Char) : Option LogValue :=
  if s = "true".toList then some (bool true)
  else if s = "false".toList then some (bool false)
  else
    (Text.Width.nat64.read s).map nat <|> (Text.Width.int64.read s).map int <|>
      (Binary64.read s).map float <|> if Text.isPattern s then some (pattern s) else none

/-- The text of a value. -/
def text : LogValue → List Char
  | bool b => (if b then "true" else "false").toList
  | float x => x.plain
  | int n | nat n => Text.decimal n
  | pattern p => p

/-- A finite double as a multiple of the least one; what is infinite lies beyond all these. -/
def multiple : Binary64 → Int
  | .finite neg m e => (if neg then -1 else 1) * (m * Binary64.twoTo (e - Binary64.minExpo) : Nat)
  | .infinite neg => (if neg then -1 else 1) * (Binary64.twoTo 2100 : Nat)
  | .nan => 0

/-- The kind of a value, and its place among the numbers. -/
def place : LogValue → Nat × Int
  | bool b => (0, if b then 1 else 0)
  | float .nan => (2, 0)
  | float x => (1, multiple x)
  | int n => (3, n)
  | nat n => (4, n)
  | pattern _ => (5, 0)

/-- Values by their kinds, then numbers by their size and patterns by their texts. -/
def order (a b : LogValue) : Ordering :=
  (compare a.place.1 b.place.1).then <| (compare a.place.2 b.place.2).then <|
    match a, b with
    | pattern p, pattern q => compare (String.ofList p) (String.ofList q)
    | _, _ => .eq

end LogValue

/-- A field that must be there, perhaps with a value. -/
structure LogField where
  name : List Char
  value : Option LogValue := none
deriving DecidableEq, Repr

namespace LogField

/-- A field by its name, or its name and its value around `=`; what comes after another `=` does not
matter. -/
def read (s : List Char) : Option LogField :=
  if s.isEmpty then none
  else
    match s.splitOn '=' with
    | name :: v :: _ => (LogValue.read v).map fun v => { name, value := some v }
    | _ => some { name := s }

/-- The text of a field. -/
def text (f : LogField) : List Char :=
  f.name ++ ((f.value.map fun v => '=' :: v.text).getD [])

/-- A field with a value is greater than one without; then names decide, then values. -/
def order (a b : LogField) : Ordering :=
  (compare a.value.isSome b.value.isSome).then <|
    (compare (String.ofList a.name) (String.ofList b.name)).then <|
      match a.value, b.value with
      | some v, some w => v.order w
      | _, _ => .eq

end LogField

/-- A directive: what it is about, and how much of it is logged. -/
structure LogDirective where
  target : Option (List Char) := none
  span : Option (List Char) := none
  field : Option LogField := none
  level : LogLevel := .trace
deriving DecidableEq, Repr

namespace LogDirective

/-- A character that a directive can start with, other than a bracket. -/
def canStart (c : Char) : Bool := c = '-' || c = ':' || c = '_' || Text.isAlphanumeric c

/-- The number of octets of a text. -/
def octets (s : List Char) : Nat := (Text.Utf8.encode s).length

/-- The octets of a text from `a` up to `b`, as far as they are whole characters. -/
def part? (s : List Char) (a b : Nat) : Option (List Char) :=
  Text.Utf8.decode? (((Text.Utf8.encode s).take b).drop a)

/-- The level from the octet `a` on; without a text it is the greatest. -/
def levelFrom? (s : List Char) (a : Nat) : Option LogLevel := do
  let t ← part? s a (octets s)
  if t.isEmpty then some .trace else LogLevel.read t

/-- What follows the bracket of a span, which ends at the octet `p`. -/
def afterSpan? (s : List Char) (d : LogDirective) (p : Nat) : List Char → Option LogDirective
  | [] => some d
  | '=' :: _ => (levelFrom? s (p + 1)).map ({ d with level := · })
  | _ => none

/-- Span and field after their bracket, which ends at the octet `p`. -/
def span? (s : List Char) (d : LogDirective) (p : Nat) (t : List Char) : Option LogDirective := do
  let name := t.takeWhile fun c => c ≠ ']' && c ≠ '{'
  let q := p + octets name
  let span ← part? s p q
  match t.drop name.length with
  | ']' :: t => afterSpan? s { d with span := some span } (q + 1) t
  | _ :: t =>
    let inside := t.takeWhile (· ≠ '}')
    let r := q + 1 + octets inside
    match t.drop inside.length with
    | _ :: ']' :: t =>
      let field ← LogField.read (← part? s (q + 1) r)
      let span := if span.isEmpty then none else some span
      afterSpan? s { d with span, field := some field } (r + 2) t
    | _ => none
  | [] => none

/-- A directive. Its parts are looked for in the text without the blanks at its ends, and they are
the octets at the same places of the text with these blanks. -/
def read (s : List Char) : Option LogDirective :=
  match Text.trim s with
  | [] => none
  | '[' :: t => span? s {} 1 t
  | c :: t =>
    if !canStart c then none
    else
      let word := (c :: t).takeWhile fun c => c ≠ '=' && c ≠ '['
      let n := octets word
      match (c :: t).drop word.length with
      | [] =>
        match LogLevel.read s with
        | some level => some { level }
        | none => some { target := some s }
      | '=' :: _ => do return { target := ← part? s 0 n, level := ← levelFrom? s (n + 1) }
      | _ :: t => do span? s { target := ← part? s 0 n } (n + 1) t

/-- Span and field in brackets, if there are any. -/
def details (d : LogDirective) : List Char :=
  let field := (d.field.map fun f => '{' :: f.text ++ ['}']).getD []
  if d.span.isNone ∧ d.field.isNone then [] else '[' :: d.span.getD [] ++ field ++ [']']

/-- The text of a directive. -/
def text (d : LogDirective) : List Char :=
  let about := d.target.getD [] ++ d.details
  if d.target.isNone ∧ d.details.isEmpty then d.level.name.toList
  else about ++ '=' :: d.level.name.toList

/-- Does a directive need no span and no value of a field? -/
def isStatic (d : LogDirective) : Bool := d.span.isNone && !d.field.any (·.value.isSome)

/-- Does a directive need a span or a field? -/
def isDynamic (d : LogDirective) : Bool := d.span.isSome || d.field.isSome

/-- How specific two directives are: first by the length of the target, where none is least, then by
whether there is a span, then by whether there is a field; what is left is decided by the texts. -/
def order (a b : LogDirective) : Ordering :=
  let size (d : LogDirective) : Nat := (d.target.map fun t => octets t + 1).getD 0
  let word (o : Option (List Char)) : String := String.ofList (o.getD [])
  (compare (size a) (size b)).then <|
    (compare a.span.isSome b.span.isSome).then <|
    (compare a.field.isSome b.field.isSome).then <|
    (compare (word a.target) (word b.target)).then <|
    (compare (word a.span) (word b.span)).then <|
      match a.field, b.field with
      | some f, some g => f.order g
      | _, _ => .eq

/-- One more directive among others, the more specific ones first: it replaces one about the
same. -/
def insert (ds : List LogDirective) (d : LogDirective) : List LogDirective :=
  match ds with
  | [] => [d]
  | e :: es =>
    match order e d with
    | .eq => d :: es
    | .lt => d :: e :: es
    | .gt => e :: insert es d

end LogDirective

namespace LogFilter

open LogDirective

/-- The directives of a text: first those that need nothing of a span, then those that do. -/
def read (s : String) : Option String := do
  let ds ← ((s.toList.splitOn ',').filter (!·.isEmpty)).mapM LogDirective.read
  let statics := (ds.filter (·.isStatic)).foldl LogDirective.insert []
  let dynamics := (ds.filter (·.isDynamic)).foldl LogDirective.insert []
  return String.ofList ([','].intercalate ((statics ++ dynamics).map LogDirective.text))

/-- The filter that is used: the one of the environment, or else the configured one, or else one for
information. -/
def choose (environment : Option String) (configured : String) : String :=
  ((environment.bind read) <|> read configured).getD "info"

end LogFilter

end Forum
