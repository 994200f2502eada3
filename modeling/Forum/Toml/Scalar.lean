import Forum.Config.Tree
import Forum.Toml.Time

/-!
# Simple values of TOML

Texts in their four forms, numbers and truth values, and the blanks and comments between them.

* `skipBlanks`, `skipLines`: spaces and tabs, and whole lines of comments;
* `key?`: a key, whose parts stand between dots, up to `maxDepth` of them;
* `quoted?`: a text; `scalar?`: any simple value.
-/

namespace Forum.Toml

open Text
open Config (Tree)

/-- Spaces and tabs. -/
def isBlank (c : Char) : Bool := c = ' ' || c = '\t'

/-- The text after its leading spaces and tabs. -/
def skipBlanks (s : List Char) : List Char := s.dropWhile isBlank

/-- A control character; tabs are none. -/
def isControl (c : Char) : Bool := (c.toNat < 32 && c ≠ '\t') || c.toNat = 127

/-- The text after a line end, if one stands there. -/
def lineEnd? : List Char → Option (List Char)
  | '\n' :: s => some s
  | '\r' :: '\n' :: s => some s
  | _ => none

/-- The text after a comment, if one stands there; it has no control characters. -/
def comment? : List Char → Option (List Char)
  | '#' :: s =>
    let rest := s.dropWhile (!isControl ·)
    match rest, lineEnd? rest with
    | [], _ => some []
    | _, some _ => some rest
    | _, none => none
  | s => some s

/-- The text at the next line, after blanks and perhaps a comment. -/
def endLine? (s : List Char) : Option (List Char) := do
  let s ← comment? (skipBlanks s)
  match s with
  | [] => some []
  | s => lineEnd? s

/-- The text after blanks, comments and line ends. -/
def skipLines (fuel : Nat) (s : List Char) : Option (List Char) :=
  match fuel with
  | 0 => some s
  | fuel + 1 => do
    let s ← comment? (skipBlanks s)
    match lineEnd? s with
    | some s => skipLines fuel s
    | none => some s

/-! ## Texts -/

/-- The character that one character after a backslash stands for. -/
def shortEscape? (c : Char) : Option Char :=
  if c = 'b' then some '\x08'
  else if c = 't' then some '\t'
  else if c = 'n' then some '\n'
  else if c = 'f' then some '\x0c'
  else if c = 'r' then some '\r'
  else if c = 'e' then some '\x1b'
  else if c = '"' then some '"'
  else if c = '\\' then some '\\'
  else none

/-- The character after a backslash, and the rest. -/
def escape? : List Char → Option (Char × List Char)
  | 'x' :: a :: b :: s => (Percent.hexChar? [a, b]).map (·, s)
  | 'u' :: a :: b :: c :: d :: s => (Percent.hexChar? [a, b, c, d]).map (·, s)
  | 'U' :: a :: b :: c :: d :: e :: f :: g :: h :: s =>
    (Percent.hexChar? [a, b, c, d, e, f, g, h]).map (·, s)
  | c :: s => (shortEscape? c).map (·, s)
  | [] => none

/-- A text in one line up to its closing quote; with double quotes a backslash escapes. -/
def line? (quote : Char) (fuel : Nat) (acc : List Char) (s : List Char) :
    Option (String × List Char) :=
  match fuel, s with
  | 0, _ | _, [] => none
  | fuel + 1, c :: s =>
    if c = quote then some (String.ofList acc.reverse, s)
    else if c = '\\' ∧ quote = '"' then do
      let (e, s) ← escape? s
      line? quote fuel (e :: acc) s
    else if isControl c then none
    else line? quote fuel (c :: acc) s

/-- How many quotes a text starts with. -/
def quoteRun (quote : Char) (s : List Char) : Nat := (s.takeWhile (· = quote)).length

/-- The text after blanks and line ends. -/
def skipSpace : List Char → List Char
  | ' ' :: s | '\t' :: s | '\n' :: s => skipSpace s
  | '\r' :: '\n' :: s => skipSpace s
  | s => s

/-- The text after the blanks and line ends that a backslash at the end of a line removes. -/
def joinLines? (s : List Char) : Option (List Char) := (lineEnd? (skipBlanks s)).map skipSpace

/-- A text of several lines up to three quotes, with its line ends as they are; one or two quotes
may stand in it, also at its end. -/
def lines? (quote : Char) (fuel : Nat) (acc : List Char) (s : List Char) :
    Option (String × List Char) :=
  match fuel, s with
  | 0, _ | _, [] => none
  | fuel + 1, c :: s =>
    if c = quote then
      let n := quoteRun quote (c :: s)
      if n < 3 then lines? quote fuel (c :: acc) s
      else if 5 < n then none
      else some (String.ofList (List.replicate (n - 3) quote ++ acc).reverse, s.drop (n - 1))
    else if c = '\\' ∧ quote = '"' then
      match joinLines? s with
      | some s => lines? quote fuel acc s
      | none => do
        let (e, s) ← escape? s
        lines? quote fuel (e :: acc) s
    else if isControl c ∧ (lineEnd? (c :: s)).isNone then none
    else lines? quote fuel (c :: acc) s

/-- A text at its opening quote. -/
def quoted? (s : List Char) : Option (String × List Char) :=
  match s with
  | [] => none
  | q :: rest =>
    if q ≠ '"' ∧ q ≠ '\'' then none
    else if quoteRun q s = 2 then some ("", s.drop 2)
    else if 3 ≤ quoteRun q s then
      let body := s.drop 3
      lines? q (body.length + 1) [] ((lineEnd? body).getD body)
    else line? q (rest.length + 1) [] rest

/-! ## Keys -/

/-- A character of a key without quotes. -/
def isKeyChar (c : Char) : Bool := c.isAlphanum || c = '_' || c = '-'

/-- One part of a key; a quoted one stands in one line. -/
def keyPart? (s : List Char) : Option (String × List Char) :=
  match s with
  | [] => none
  | q :: rest =>
    if q = '"' ∨ q = '\'' then line? q (rest.length + 1) [] rest
    else
      let name := s.takeWhile isKeyChar
      if name.isEmpty then none else some (String.ofList name, s.dropWhile isKeyChar)

/-- The most parts of a key, and the most lists and tables that stand one in another. -/
def maxDepth : Nat := 80

/-- A key: at most `n` parts between dots. -/
def parts? (n : Nat) (s : List Char) : Option (List String × List Char) :=
  match n with
  | 0 => none
  | n + 1 => do
    let (part, s) ← keyPart? (skipBlanks s)
    match skipBlanks s with
    | '.' :: s =>
      let (parts, s) ← parts? n s
      return (part :: parts, s)
    | s => return ([part], s)

/-- A key at the start of a text, and the rest after its blanks. -/
def key? (s : List Char) : Option (List String × List Char) := parts? maxDepth s

/-! ## Numbers and truth values -/

/-- Digits with single underscores between them, without these. -/
def digits? (isDigit : Char → Bool) (s : List Char) : Option (List Char) :=
  let parts := s.splitOn '_'
  if parts.all fun p => !p.isEmpty && p.all isDigit then some parts.flatten else none

/-- An integer in another base, after its mark. -/
def based? (base : Nat) (s : List Char) : Option Tree := do
  let isDigit (c : Char) : Bool := (Percent.hexValue c).any (· < base)
  let ds ← digits? isDigit s
  let n := ds.foldl (fun n c => base * n + (Percent.hexValue c).getD 0) 0
  (Width.int64.fit n).map .int

/-- Decimal digits without zeros in front. -/
def decimal? (s : List Char) : Option (List Char) := do
  let ds ← digits? Char.isDigit s
  match ds with
  | '0' :: _ :: _ => none
  | ds => some ds

/-- A number with a point or an exponent, without its sign. One beyond the range of doubles is
none. -/
def float? (neg : Bool) (s : List Char) : Option Tree := do
  let mantissa := s.takeWhile fun c => c ≠ 'e' && c ≠ 'E'
  let expo ← match s.drop mantissa.length with
    | [] => some 0
    | _ :: '-' :: e => (digits? Char.isDigit e).map fun ds => -(digitsValue ds : Int)
    | _ :: '+' :: e => (digits? Char.isDigit e).map fun ds => (digitsValue ds : Int)
    | _ :: e => (digits? Char.isDigit e).map fun ds => (digitsValue ds : Int)
  let whole ← decimal? (mantissa.takeWhile (· ≠ '.'))
  let fraction ← match mantissa.dropWhile (· ≠ '.') with
    | [] => some []
    | _ :: f => digits? Char.isDigit f
  match Binary64.ofDecimal neg (digitsValue (whole ++ fraction)) (expo - fraction.length) with
  | .infinite _ => none
  | x => some (.float x)

/-- A number without its sign. -/
def unsigned? (neg : Bool) (s : List Char) : Option Tree :=
  if s = "inf".toList then some (.float (.infinite neg))
  else if s = "nan".toList then some (.float .nan)
  else if s.any fun c => c = '.' || c = 'e' || c = 'E' then float? neg s
  else do
    let n : Int := digitsValue (← decimal? s)
    (Width.int64.fit (if neg then -n else n)).map .int

/-- A number. -/
def number? : List Char → Option Tree
  | '0' :: 'x' :: s => based? 16 s
  | '0' :: 'o' :: s => based? 8 s
  | '0' :: 'b' :: s => based? 2 s
  | '-' :: s => unsigned? true s
  | '+' :: s => unsigned? false s
  | s => unsigned? false s

/-! ## Simple values -/

/-- The characters that a simple value without quotes has. -/
def isBareChar (c : Char) : Bool :=
  c.isAlphanum || c = '_' || c = '-' || c = '+' || c = '.' || c = ':'

/-- A simple value without quotes, and the rest. Between a date and a time of day a space may
stand. -/
def bare (s : List Char) : List Char × List Char :=
  let word := s.takeWhile isBareChar
  match s.drop word.length with
  | ' ' :: d :: rest =>
    if (Time.date? word).any (·.2.isEmpty) ∧ d.isDigit then
      let time := (d :: rest).takeWhile isBareChar
      (word ++ ' ' :: time, (d :: rest).drop time.length)
    else (word, ' ' :: d :: rest)
  | rest => (word, rest)

/-- The value of a word. A time is a text. -/
def word? (s : List Char) : Option Tree :=
  if s = "true".toList then some (.bool true)
  else if s = "false".toList then some (.bool false)
  else
    match Time.read s with
    | some t => some (.text (String.ofList t.render))
    | none => number? s

/-- A simple value at the start of a text, and the rest. -/
def scalar? (s : List Char) : Option (Tree × List Char) :=
  match s with
  | '"' :: _ | '\'' :: _ => (quoted? s).map fun (t, s) => (.text t, s)
  | _ => (word? (bare s).1).map fun v => (v, (bare s).2)

end Forum.Toml
