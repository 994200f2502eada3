import Forum.Binary64

/-!
# JSON values

* `Json`: values, with the members of an object in the order of their names;
* `Json.object`: an object from members in any order, the last of a repeated name wins;
* `Json.render`: the compact text of a value.
-/

namespace Forum

/-- A JSON number: an integer of at most 64 bits, signed or not, or a double. -/
inductive Json.Number where
  | int (n : Int)
  | float (x : Binary64)
deriving DecidableEq, Repr

/-- A JSON value. -/
inductive Json where
  | null
  | bool (b : Bool)
  | number (n : Json.Number)
  | text (s : String)
  | list (items : List Json)
  | members (ms : List (String × Json))

namespace Json

instance : Inhabited Json := ⟨null⟩

/-- An integer. -/
abbrev int (n : Int) : Json := number (.int n)

/-- A member put in its place by name; an older one of that name is replaced. -/
def insert (name : String) (v : Json) : List (String × Json) → List (String × Json)
  | [] => [(name, v)]
  | (n, w) :: ms =>
    if name < n then (name, v) :: (n, w) :: ms
    else if name = n then (n, v) :: ms
    else (n, w) :: insert name v ms

/-- The object with these members; the last of a repeated name counts. -/
def object (ms : List (String × Json)) : Json :=
  members (ms.foldl (fun acc (n, v) => insert n v acc) [])

/-- The text, or null. -/
def ofText? : Option String → Json
  | some s => text s
  | none => null

/-- The member of a name. -/
def get? (name : String) : Json → Option Json
  | members ms => ms.lookup name
  | _ => none

/-- The member of a name, null if there is none. -/
def get (name : String) (v : Json) : Json := (v.get? name).getD null

/-- The text, if it is one. -/
def asText? : Json → Option String
  | text s => some s
  | _ => none

/-- The integer, if it is one. -/
def asInt? : Json → Option Int
  | number (.int n) => some n
  | _ => none

/-- The truth value, if it is one. -/
def asBool? : Json → Option Bool
  | bool b => some b
  | _ => none

/-- The items of a list, none of any other value. -/
def items : Json → List Json
  | list xs => xs
  | _ => []

/-- The members of an object, none of any other value. -/
def entries : Json → List (String × Json)
  | members ms => ms
  | _ => []

/-! ## Text -/

/-- A hexadecimal digit in small letters. -/
def hexDigit (n : Nat) : Char := Char.ofNat (if n < 10 then 48 + n else 87 + n)

/-- A character inside quotes. Only quotes, backslashes and control characters are escaped. -/
def escapeChar (c : Char) : List Char :=
  if c = '"' then ['\\', '"']
  else if c = '\\' then ['\\', '\\']
  else if c.toNat < 32 then
    match c.toNat with
    | 8 => ['\\', 'b']
    | 9 => ['\\', 't']
    | 10 => ['\\', 'n']
    | 12 => ['\\', 'f']
    | 13 => ['\\', 'r']
    | n => ['\\', 'u', '0', '0', hexDigit (n / 16), hexDigit (n % 16)]
  else [c]

/-- A quoted text. -/
def quote (s : List Char) : List Char := '"' :: s.flatMap escapeChar ++ ['"']

/-- The text of a number. -/
def Number.render : Number → List Char
  | .int n => n.repr.toList
  | .float x => x.jsonText

/-- The compact text of a value. -/
def render : Json → List Char
  | null => "null".toList
  | bool true => "true".toList
  | bool false => "false".toList
  | number n => n.render
  | text s => quote s.toList
  | list xs => '[' :: renderItems xs ++ [']']
  | members ms => '{' :: renderMembers ms ++ ['}']
where
  renderItems : List Json → List Char
    | [] => []
    | [x] => x.render
    | x :: xs => x.render ++ ',' :: renderItems xs
  renderMembers : List (String × Json) → List Char
    | [] => []
    | [(n, x)] => quote n.toList ++ ':' :: x.render
    | (n, x) :: ms => quote n.toList ++ ':' :: x.render ++ ',' :: renderMembers ms

/-- `render` as a string. -/
def toText (v : Json) : String := String.ofList v.render

end Json

end Forum
