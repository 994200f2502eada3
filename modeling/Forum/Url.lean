import Forum.Text.Integer
import Forum.Text.Letters
import Forum.Text.Percent

/-!
# URLs

The parts of a URL of a scheme without rules of its own.

* `Url`, `Url.parse?`;
* `Url.isHost`: a name, or an IPv6 address in brackets.
-/

namespace Forum

/-- A URL. `rooted` tells whether its path starts with a slash. -/
structure Url where
  scheme : List Char
  username : List Char := []
  password : List Char := []
  host : Option (List Char) := none
  port : Option Nat := none
  rooted : Bool := false
  path : List Char := []
  query : List (String × String) := []

namespace Url

open Text

/-- A character of a scheme after its first letter. -/
def isSchemeChar (c : Char) : Bool := c.isAlphanum || c = '+' || c = '-' || c = '.'

/-- The scheme before the first colon, and the rest. -/
def scheme? (s : List Char) : Option (List Char × List Char) :=
  let name := s.takeWhile isSchemeChar
  match name, s.dropWhile isSchemeChar with
  | c :: _, ':' :: rest => if c.isAlpha then some (name.map lowerAscii, rest) else none
  | _, _ => none

/-- The characters that no host has. -/
def isForbidden (c : Char) : Bool :=
  c = '\x00' || c = ' ' || c = '<' || c = '>' || c = '[' || c = '\\' || c = ']' || c = '^' ||
    c = '|' || c = ':' || c = '@'

/-- The pieces of an IPv6 address on one side of `::`, as many 16-bit groups as they stand for; the
last one may be four numbers between dots. -/
def groups? (parts : List (List Char)) : Option Nat :=
  match parts with
  | [] => some 0
  | [p] =>
    if p.contains '.' then
      let numbers := p.splitOn '.'
      if numbers.length = 4 ∧
          numbers.all fun n => (readNat n).any (· ≤ 255) && (n = ['0'] || n.head? ≠ some '0')
      then some 2 else none
    else if isGroup p then some 1 else none
  | p :: ps => if isGroup p then (groups? ps).map (· + 1) else none
where
  /-- One to four hexadecimal digits. -/
  isGroup (p : List Char) : Bool :=
    !p.isEmpty && p.length ≤ 4 && p.all fun c => (Percent.hexValue c).isSome

/-- A text cut at its first `::`. -/
def cutAtGap : List Char → Option (List Char × List Char)
  | ':' :: ':' :: s => some ([], s)
  | c :: s => (cutAtGap s).map fun (a, b) => (c :: a, b)
  | [] => none

/-- The groups of a text between colons; the empty text has none. -/
def colonParts (s : List Char) : List (List Char) := if s.isEmpty then [] else s.splitOn ':'

/-- Is this an IPv6 address? -/
def isIPv6 (s : List Char) : Bool :=
  match cutAtGap s with
  | none => groups? (colonParts s) = some 8
  | some (a, b) =>
    match groups? (colonParts a), groups? (colonParts b) with
    | some m, some n => m + n ≤ 7 && !a.contains '.'
    | _, _ => false

/-- A host: characters that are allowed, or an IPv6 address in brackets. -/
def isHost (s : List Char) : Bool :=
  match s with
  | '[' :: rest => rest.getLast? = some ']' && isIPv6 rest.dropLast
  | _ => !s.any isForbidden

/-- A port of 16 bits; the empty text is none. -/
def port? (s : List Char) : Option (Option Nat) :=
  if s.isEmpty then some none
  else
    match readNat s with
    | some n => if n < 65536 then some (some n) else none
    | none => none

/-- A text cut at its last character that satisfies a test. -/
def cutAtLast (p : Char → Bool) (s : List Char) : Option (List Char × List Char) :=
  match s.reverse.dropWhile (!p ·) with
  | _ :: front => some (front.reverse, (s.reverse.takeWhile (!p ·)).reverse)
  | [] => none

/-- Host and port; the colon of a port stands after the brackets. -/
def hostPort? (s : List Char) : Option (List Char × Option Nat) := do
  let (host, port) := match s with
    | '[' :: _ =>
      let inside := s.takeWhile (· ≠ ']')
      (inside ++ (s.drop inside.length).take 1, s.drop (inside.length + 1))
    | _ => (s.takeWhile (· ≠ ':'), s.dropWhile (· ≠ ':'))
  if !isHost host then none
  else
    match port with
    | [] => some (host, none)
    | ':' :: digits => if host.isEmpty then none else some (host, ← port? digits)
    | _ => none

/-- Path and query of what follows the host. -/
def withRest (u : Url) (s : List Char) : Url :=
  let s := s.takeWhile (· ≠ '#')
  let path := s.takeWhile (· ≠ '?')
  { u with
    rooted := path.head? = some '/' || (u.host.isSome && path.isEmpty)
    path
    query := Percent.formPairs ((s.dropWhile (· ≠ '?')).drop 1) }

/-- A text without control characters and spaces at its ends, and without tabs and line ends
inside. -/
def clean (s : List Char) : List Char :=
  let isEdge (c : Char) : Bool := c.toNat ≤ 32
  ((s.dropWhile isEdge).reverse.dropWhile isEdge).reverse.filter
    fun c => c ≠ '\t' && c ≠ '\n' && c ≠ '\r'

/-- The URL of a text. -/
def parse? (text : String) : Option Url := do
  let (scheme, s) ← scheme? (clean text.toList)
  match s with
  | '/' :: '/' :: s =>
    let authority := s.takeWhile fun c => c ≠ '/' && c ≠ '?' && c ≠ '#'
    let rest := s.drop authority.length
    let (user, address) := match cutAtLast (· = '@') authority with
      | some (user, address) => (some user, address)
      | none => (none, authority)
    let (host, port) ← hostPort? address
    if host.isEmpty ∧ user.isSome then none
    else
      let user := user.getD []
      let u : Url := {
        scheme, port
        username := user.takeWhile (· ≠ ':')
        password := (user.dropWhile (· ≠ ':')).drop 1
        host := if host.isEmpty then none else some host }
      some { u.withRest rest with rooted := true }
  | s => some (({ scheme } : Url).withRest s)

end Url

end Forum
