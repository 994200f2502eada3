import Forum.Binary64.Reading
import Forum.Text.LetterCase

/-!
# Layers of settings

A tree of settings is built layer by layer: what a later layer names takes the place of what was
there, and tables are merged. Values are read leniently: a number may be spelt, and a text may be a
number.

* `Tree`, `Tree.overlay`, `Tree.setKey`, with the path of a key as `Tree.Step`s;
* `Tree.asBool?`, `asText?`, `asInt?`, `asNat?`, `asChoice?`;
* `Tree.members?`, `Tree.member?`: the fields of a structure.
-/

namespace Forum.Config

/-- A value of a setting; `nil` fills the places of a list that nothing was set at. -/
inductive Tree where
  | nil
  | bool (b : Bool)
  | int (n : Int)
  | float (x : Binary64)
  | text (s : String)
  | list (items : List Tree)
  | table (members : List (String × Tree))

namespace Tree

/-- The members of a table; any other value has none. -/
def members : Tree → List (String × Tree)
  | table ms => ms
  | _ => []

/-- A member with a new value; a new one comes last. -/
def put {α : Type} (ms : List (String × α)) (name : String) (a : α) : List (String × α) :=
  if ms.any (·.1 = name) then ms.map fun m => if m.1 = name then (name, a) else m
  else ms ++ [(name, a)]

/-- A value over what was there before. -/
def overlay (old : Option Tree) : Tree → Tree
  | table ms => table (overlayMembers ((old.map members).getD []) ms)
  | v => v
where
  /-- The members of a table over what was there before. -/
  overlayMembers (acc : List (String × Tree)) : List (String × Tree) → List (String × Tree)
    | [] => acc
    | (name, v) :: ms => overlayMembers (put acc name (overlay (acc.lookup name) v)) ms

/-- A step of a path: to a member of a table, or to an item of a list. The item `-1` is the last
one. -/
inductive Step where
  | member (name : String)
  | item (i : Int)
deriving DecidableEq, Repr

/-- The items of a list; any other value has none. -/
def items : Tree → List Tree
  | list xs => xs
  | _ => []

/-- A list with an item `i`, and its place. Places that are not there are made, behind the last item
or before the first. -/
def withItem (xs : List Tree) (i : Int) : List Tree × Nat :=
  let k := if 0 ≤ i then i else i + xs.length
  if 0 ≤ k then (xs ++ List.replicate (k.toNat + 1 - xs.length) nil, k.toNat)
  else (List.replicate k.natAbs nil ++ xs, 0)

/-- A value at a path. -/
def setAt (v : Tree) : List Step → Option Tree → Tree
  | [], old => overlay old v
  | .member name :: path, old =>
    let ms := (old.map members).getD []
    table (put ms name (setAt v path (ms.lookup name)))
  | .item i :: path, old =>
    let (xs, k) := withItem ((old.map items).getD []) i
    list (xs.set k (setAt v path xs[k]?))

/-- A character of a name in a path. -/
def isNameChar (c : Char) : Bool := c.isAlphanum || c = '_' || c = '-'

/-- The number of an item up to its bracket, and the rest. Blanks may stand around it. -/
def itemNumber? (s : List Char) : Option (Int × List Char) := do
  let isBlank (c : Char) : Bool := c = ' ' || c = '\t'
  let s := s.dropWhile isBlank
  let (neg, s) := match s with
    | '-' :: s => (true, s)
    | s => (false, s)
  let n ← Text.readNat (s.takeWhile Char.isDigit)
  let i ← Text.Width.int64.fit (if neg then -n else n)
  match (s.dropWhile Char.isDigit).dropWhile isBlank with
  | ']' :: s => some (i, s)
  | _ => none

/-- The steps that a text spells: names after dots, and numbers of items in brackets. -/
def steps? (fuel : Nat) (s : List Char) : Option (List Step) :=
  match fuel, s with
  | _, [] => some []
  | fuel + 1, '.' :: s =>
    let name := s.takeWhile isNameChar
    if name.isEmpty then none
    else (steps? fuel (s.drop name.length)).map (.member (String.ofList name) :: ·)
  | fuel + 1, '[' :: s => do
    let (i, s) ← itemNumber? s
    return .item i :: (← steps? fuel s)
  | _, _ => none

/-- The path that a key spells, from a name. Any other key is a name itself. -/
def pathOf (key : String) : List Step :=
  (steps? (key.length + 1) ('.' :: key.toList)).getD [.member key]

/-- A value under a key. -/
def setKey (root : Tree) (key : String) (v : Tree) : Tree := setAt v (pathOf key) (some root)

/-- A layer over a tree. -/
def addLayer (root : Tree) (layer : List (String × Tree)) : Tree :=
  layer.foldl (fun t (key, v) => t.setKey key v) root

/-! ## Reading -/

/-- The truth value of a word. -/
def wordBool? (s : String) : Option Bool :=
  if ["true", "on", "yes"].any (Text.equalAscii s) then some true
  else if ["false", "off", "no"].any (Text.equalAscii s) then some false
  else none

/-- A truth value; a number is true unless it is zero. -/
def asBool? : Tree → Option Bool
  | bool b => some b
  | int n => some (n ≠ 0)
  | float (.finite _ m _) => some (m ≠ 0)
  | float _ => some true
  | text s => if s = "1" then some true else if s = "0" then some false else wordBool? s
  | _ => none

/-- An integer of a type; a number with a fraction is rounded. -/
def asNumber? (wide w : Text.Width) : Tree → Option Int
  | bool b => some (if b then 1 else 0)
  | int n => (wide.fit n).bind w.fit
  | float x => w.fit (x.roundTo wide)
  | text s =>
    match wordBool? s with
    | some b => some (if b then 1 else 0)
    | none => (wide.read s.toList).bind w.fit
  | _ => none

/-- An integer of a type with negative values. -/
def asInt? (w : Text.Width) : Tree → Option Int := asNumber? .int64 w

/-- An integer of a type without negative values. -/
def asNat? (w : Text.Width) : Tree → Option Int := asNumber? .nat64 w

/-- A text; other simple values are printed. -/
def asText? : Tree → Option String
  | text s => some s
  | bool b => some (if b then "true" else "false")
  | int n => some n.repr
  | float x => some (String.ofList x.plain)
  | _ => none

/-- One of several names in any case, alone or as the only name of a table. -/
def asChoice? {α : Type} (all : List α) (name : α → String) : Tree → Option α
  | text s => named s
  | table [(s, _)] => named s
  | _ => none
where
  /-- The value of a name. -/
  named (s : String) : Option α := all.find? fun a => name a = Text.lowercase s

/-- The fields of a structure: a table, or a list of them in order. -/
def members? (names : List String) : Tree → Option (List (String × Tree))
  | table ms => some ms
  | list xs => some (names.zip xs)
  | _ => none

/-- A field, or its default if it is missing. -/
def member? {α : Type} (ms : List (String × Tree)) (name : String) (read : Tree → Option α)
    (absent : α) : Option α :=
  match ms.lookup name with
  | some t => read t
  | none => some absent

end Tree

end Forum.Config
