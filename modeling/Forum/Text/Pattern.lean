import Forum.Text.Alphanumeric
import Forum.Text.Percent

/-!
# Regular expressions

Which texts are regular expressions. There are no counted repetitions and no names in braces, so
that a brace outside a class is a mistake.

* `escape?`, `class?`, `group?`: what follows a backslash, a bracket and a parenthesis with `?`;
* `isPattern`: a whole expression.
-/

namespace Forum.Text.Pattern

/-- What can stand at one place: one character, or several. -/
inductive Atom where
  | char (c : Char)
  | set
deriving DecidableEq, Repr

/-- The letters of the general categories. -/
def categories : List Char := "clmnpszCLMNPSZ".toList

/-- A character by its hexadecimal digits. -/
def hex? (width : Nat) (s : List Char) : Option (Atom × List Char) :=
  if s.length < width then none
  else (Percent.hexChar? (s.take width)).map fun c => (.char c, s.drop width)

/-- What follows a backslash, and the rest. Beginning and end of the text are no members of a class,
and the ends of words cannot be asked for. -/
def escape? (inClass : Bool) : List Char → Option (Atom × List Char)
  | [] => none
  | c :: s =>
    if c ∈ "dDsSwW".toList then some (.set, s)
    else if c = 'p' ∨ c = 'P' then
      match s with
      | k :: s => if k ∈ categories then some (.set, s) else none
      | [] => none
    else if c = 'x' then hex? 2 s
    else if c = 'u' then hex? 4 s
    else if c = 'U' then hex? 8 s
    else if c = 'a' then some (.char '\x07', s)
    else if c = 't' then some (.char '\t', s)
    else if c = 'n' then some (.char '\n', s)
    else if c = 'v' then some (.char '\x0b', s)
    else if c = 'f' then some (.char '\x0c', s)
    else if c = 'r' then some (.char '\r', s)
    else if c = 'A' ∨ c = 'z' then if inClass then none else some (.set, s)
    else if c.isAlphanum ∨ c = '<' ∨ c = '>' ∨ 127 < c.toNat then none
    else some (.char c, s)

/-! ## Classes -/

/-- A member of a class, and the rest. -/
def member? : List Char → Option (Atom × List Char)
  | [] => none
  | '\\' :: s => escape? true s
  | c :: s => some (.char c, s)

/-- The rest after one member or a range, which goes from a character to the same or a later one. -/
def range? (s : List Char) : Option (List Char) := do
  let (a, s) ← member? s
  match s with
  | '-' :: ']' :: _ | '-' :: '-' :: _ => some s
  | '-' :: s =>
    match a, ← member? s with
    | .char lo, (.char hi, s) => if lo ≤ hi then some s else none
    | _, _ => none
  | _ => some s

/-- The start of a class: a bracket or hyphens in front are members. -/
def classStart (s : List Char) : List Char :=
  let s := match s with
    | '^' :: s => s
    | s => s
  match s with
  | ']' :: s => s
  | s => s.dropWhile (· = '-')

/-- The names of classes of ASCII characters. -/
def asciiClasses : List String :=
  ["alnum", "alpha", "ascii", "blank", "cntrl", "digit", "graph", "lower", "print", "punct",
    "space", "upper", "word", "xdigit"]

/-- The rest after a class with a name, from behind its first bracket. -/
def named? : List Char → Option (List Char)
  | ':' :: s =>
    let s := match s with
      | '^' :: s => s
      | s => s
    let name := s.takeWhile (· ≠ ':')
    match s.drop name.length with
    | ':' :: ']' :: s => if String.ofList name ∈ asciiClasses then some s else none
    | _ => none
  | _ => none

/-- The rest after a class and the `depth` classes around it. -/
def class? (fuel depth : Nat) (s : List Char) : Option (List Char) :=
  match fuel, s with
  | 0, _ | _, [] => none
  | fuel + 1, '[' :: s =>
    match named? s with
    | some s => class? fuel depth s
    | none => class? fuel (depth + 1) (classStart s)
  | fuel + 1, ']' :: s => if depth = 0 then some s else class? fuel (depth - 1) s
  | fuel + 1, '&' :: '&' :: s => class? fuel depth s
  | fuel + 1, '-' :: '-' :: s => class? fuel depth s
  | fuel + 1, '~' :: '~' :: s => class? fuel depth s
  | fuel + 1, s => (range? s).bind (class? fuel depth)

/-! ## Expressions -/

/-- A character of the name of a group. -/
def isNameChar (c : Char) : Bool := c = '_' || c = '.' || c = '[' || c = ']' || isAlphanumeric c

/-- The rest after the name of a group, which starts with no digit. -/
def groupName? (s : List Char) : Option (List Char) :=
  let name := s.takeWhile isNameChar
  match name, s.drop name.length with
  | c :: _, '>' :: s => if c.isDigit ∨ c ∈ ['.', '[', ']'] then none else some s
  | _, _ => none

/-- What follows a parenthesis with `?`: does it open a group, and the rest. Otherwise it sets flags
for what comes after it. -/
def group? (s : List Char) : Option (Bool × List Char) :=
  match s with
  | 'P' :: '<' :: s | '<' :: s => (groupName? s).map (true, ·)
  | s =>
    let flags := s.takeWhile (· ∈ "imsUuRx-".toList)
    if ¬ flags.Nodup ∨ flags.getLast? = some '-' then none
    else
      match s.drop flags.length with
      | ':' :: s => some (true, s)
      | ')' :: s => if flags.isEmpty then none else some (false, s)
      | _ => none

/-- The rest of an expression in `depth` groups; `operand` tells whether something stands in front
that can be repeated. -/
def scan (fuel depth : Nat) (operand : Bool) (s : List Char) : Bool :=
  match fuel, s with
  | _, [] => depth = 0
  | 0, _ => false
  | fuel + 1, '(' :: '?' :: s =>
    match group? s with
    | some (opens, s) => scan fuel (if opens then depth + 1 else depth) false s
    | none => false
  | fuel + 1, '(' :: s => scan fuel (depth + 1) false s
  | fuel + 1, ')' :: s => 0 < depth && scan fuel (depth - 1) true s
  | fuel + 1, '|' :: s => scan fuel depth false s
  | fuel + 1, '[' :: s =>
    match class? (s.length + 1) 0 (classStart s) with
    | some s => scan fuel depth true s
    | none => false
  | fuel + 1, '\\' :: s =>
    match escape? false s with
    | some (_, s) => scan fuel depth true s
    | none => false
  | fuel + 1, c :: s =>
    if c = '{' then false
    else if c = '*' ∨ c = '+' ∨ c = '?' then operand && scan fuel depth true s
    else scan fuel depth true s

end Pattern

/-- Is a text a regular expression? -/
def isPattern (s : List Char) : Bool := Pattern.scan (s.length + 1) 0 false s

end Forum.Text
