import Forum.Toml.Scalar

/-!
# TOML documents

* `value?`: a value, simple or composed;
* `Node`: a table under construction, which knows how each part of it came about, because a table is
  defined once only;
* `document?`: the members of the root table of a document.
-/

namespace Forum.Toml

open Config (Tree)

/-- How a table came about: on the way to another one, by a header, or by a key with dots. -/
inductive Origin where
  | implied
  | header
  | dotted
deriving DecidableEq, Repr

/-- A part of a document under construction: a value, a table, or a list of tables of which the last
is open. -/
inductive Node where
  | value (t : Tree)
  | table (o : Origin) (members : List (String × Node))
  | tables (items : List (List (String × Node)))

/-- The members of a table under construction. -/
abbrev Members := List (String × Node)

namespace Node

/-- The finished value. -/
def toTree : Node → Tree
  | value t => t
  | table _ ms => .table (membersToTree ms)
  | tables items => .list (itemsToTree items)
where
  /-- The finished members. -/
  membersToTree : List (String × Node) → List (String × Tree)
    | [] => []
    | (name, n) :: ms => (name, toTree n) :: membersToTree ms
  /-- The finished tables of a list. -/
  itemsToTree : List (List (String × Node)) → List Tree
    | [] => []
    | ms :: items => .table (membersToTree ms) :: itemsToTree items

/-- Can a path of such steps pass a table, or end there? A key with dots extends no table of a
header, and it ends only in a table of such keys. -/
def canEnter (step : Origin) (ends : Bool) (o : Origin) : Bool :=
  step ≠ .dotted || o = .dotted || (o = .implied && !ends)

/-- A change of the table at a path; what is missing on the way is made. A path enters the last
table of a list, but a key with dots does not end there. -/
def within (step : Origin) (change : Members → Option Members) :
    List String → Members → Option Members
  | [], ms => change ms
  | name :: path, ms =>
    match ms.lookup name with
    | none => do return Tree.put ms name (table step (← within step change path []))
    | some (table o inner) =>
      if canEnter step path.isEmpty o then do
        return Tree.put ms name (table o (← within step change path inner))
      else none
    | some (tables items) =>
      if step = .dotted ∧ path.isEmpty then none
      else do
        let last ← within step change path (← items.getLast?)
        return Tree.put ms name (tables (items.dropLast ++ [last]))
    | some (value _) => none

/-- A new member. -/
def define (name : String) (n : Node) (ms : Members) : Option Members :=
  if ms.any (·.1 = name) then none else some (ms ++ [(name, n)])

/-- The table of a header; one that came about on the way to another can be defined once. -/
def defineTable (name : String) (ms : Members) : Option Members :=
  match ms.lookup name with
  | none => some (ms ++ [(name, table .header [])])
  | some (table .implied inner) => some (Tree.put ms name (table .header inner))
  | some _ => none

/-- One more table of a list. -/
def defineItem (name : String) (ms : Members) : Option Members :=
  match ms.lookup name with
  | none => some (ms ++ [(name, tables [[]])])
  | some (tables items) => some (Tree.put ms name (tables (items ++ [[]])))
  | some _ => none

/-- A value under a key with dots. -/
def assign (key : List String) (t : Tree) (ms : Members) : Option Members := do
  let name ← key.getLast?
  within .dotted (define name (value t)) key.dropLast ms

end Node

mutual

/-- The value at the start of a text, and the rest. At most `depth` lists and tables stand one in
another. -/
def value? : Nat → Nat → List Char → Option (Tree × List Char)
  | 0, _, _ => none
  | fuel + 1, depth, s =>
    match s, depth with
    | '[' :: _, 0 | '{' :: _, 0 => none
    | '[' :: s, depth + 1 => do
      let (xs, s) ← items? fuel depth s
      return (.list xs, s)
    | '{' :: s, depth + 1 => do
      let (ms, s) ← inline? fuel depth [] s
      return (Node.toTree (.table .header ms), s)
    | s, _ => scalar? s

/-- The items of a list up to its bracket; a comma may stand after the last. -/
def items? : Nat → Nat → List Char → Option (List Tree × List Char)
  | 0, _, _ => none
  | fuel + 1, depth, s => do
    match ← skipLines s.length s with
    | ']' :: s => some ([], s)
    | s =>
      let (x, s) ← value? fuel depth s
      match ← skipLines s.length s with
      | ',' :: s =>
        let (xs, s) ← items? fuel depth s
        return (x :: xs, s)
      | ']' :: s => some ([x], s)
      | _ => none

/-- The members of a table between braces, after some others and up to its brace; a comma may stand
after the last. Lines may end and comments may stand everywhere but in a key. -/
def inline? : Nat → Nat → Members → List Char → Option (Members × List Char)
  | 0, _, _, _ => none
  | fuel + 1, depth, ms, s => do
    match ← skipLines s.length s with
    | '}' :: s => some (ms, s)
    | s =>
      let (key, s) ← key? s
      let s ← after? '=' (← skipLines s.length s)
      let (v, s) ← value? fuel depth (← skipLines s.length s)
      let ms ← Node.assign key v ms
      match ← skipLines s.length s with
      | ',' :: s => inline? fuel depth ms s
      | '}' :: s => some (ms, s)
      | _ => none

end

/-- A document under construction: the root, and the path of the open table. -/
structure Draft where
  root : Members := []
  path : List String := []

/-- A header: the key up to its brackets opens a table. -/
def header? (d : Draft) (brackets : Nat) (s : List Char)
    (define : String → Members → Option Members) : Option (Draft × List Char) := do
  let (key, s) ← key? s
  let name ← key.getLast?
  if s.take brackets ≠ List.replicate brackets ']' then none
  else
    let root ← Node.within .implied (define name) key.dropLast d.root
    return (⟨root, key⟩, ← endLine? (s.drop brackets))

/-- A key with its value, in the open table. -/
def assignment? (d : Draft) (s : List Char) : Option (Draft × List Char) := do
  let (key, s) ← key? s
  let s ← after? '=' s
  let (v, s) ← value? (s.length + 1) maxDepth (skipBlanks s)
  let root ← Node.within .implied (Node.assign key v) d.path d.root
  return ({ d with root }, ← endLine? s)

/-- The lines of a document. -/
def lines (fuel : Nat) (d : Draft) (s : List Char) : Option Members :=
  match fuel with
  | 0 => none
  | fuel + 1 => do
    match ← skipLines (s.length + 1) s with
    | [] => return d.root
    | '[' :: '[' :: s =>
      let (d, s) ← header? d 2 s Node.defineItem
      lines fuel d s
    | '[' :: s =>
      let (d, s) ← header? d 1 s Node.defineTable
      lines fuel d s
    | s =>
      let (d, s) ← assignment? d s
      lines fuel d s

/-- The text without a mark of byte order in front. -/
def unmarked : List Char → List Char
  | '\ufeff' :: s => s
  | s => s

/-- The members of the root table of a document. The file and the document may have a mark each. -/
def document? (text : String) : Option (List (String × Tree)) :=
  let s := unmarked (unmarked text.toList)
  (lines (s.length + 2) {} s).map fun ms => Node.toTree.membersToTree ms

end Forum.Toml
