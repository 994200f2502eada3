import Forum.Error
import Forum.Instant

/-!
# Values, rows and replies of the database

* `Value`: what a column or a parameter can hold;
* `Column`: the typed reading of a value;
* `Outcome`, `Row`: what a statement answers; `Row.named`, `Row.at_`: a column by its name or by its
  position, with the error of what cannot be read.
-/

namespace Forum.Sql

/-- A value of a column or of a parameter. Integers have a width. -/
inductive Value where
  | null
  | bool (b : Bool)
  | int (w : Text.Width) (n : Int)
  | text (s : String)
  | texts (ss : List String)
  | instant (t : Instant)
  | json (v : Json)

namespace Value

/-- An integer of 64 bits. -/
def int64 (n : Int) : Value := int .int64 n

/-- The value in JSON. -/
def toJson : Value → Json
  | null => .null
  | bool b => .bool b
  | int _ n => .int n
  | text s => .text s
  | texts ss => .list (ss.map .text)
  | instant t => t.toJson
  | json v => v

end Value

/-- A typed reading of a value; none if the value does not fit. -/
abbrev Column (α : Type) := Value → Option α

namespace Column

def bool : Column Bool
  | .bool b => some b
  | _ => none

/-- An integer of exactly this width. -/
def int (w : Text.Width) : Column Int
  | .int v n => if v = w then some n else none
  | _ => none

def text : Column String
  | .text s => some s
  | _ => none

/-- A text that a function reads. -/
def textOf {α : Type} (f : String → Option α) : Column α
  | .text s => f s
  | _ => none

def instant : Column Instant
  | .instant t => some t
  | _ => none

def json : Column Json
  | .json v => some v
  | _ => none

/-- Null, or a value. -/
def nullable {α : Type} (c : Column α) : Column (Option α)
  | .null => some none
  | v => (c v).map some

end Column

/-- A row: the values, each with the name of its column. -/
abbrev Row := List (String × Value)

namespace Row

variable {α : Type}

/-- A reading with the column to blame. -/
def decode (c : Column α) (column : String) (v : Value) : Except StorageError α :=
  match c v with
  | some a => .ok a
  | none => .error (.columnDecode column)

/-- The column of a name; of two columns of one name, the last. -/
def named (r : Row) (name : String) (c : Column α) : Except StorageError α :=
  match r.reverse.lookup name with
  | some v => decode c ("\"" ++ name ++ "\"") v
  | none => .error (.columnNotFound name)

/-- The column of a name, or nothing if there is none. -/
def spare (r : Row) (name : String) (c : Column α) : Except StorageError (Option α) :=
  match r.named name (.nullable c) with
  | .error (.columnNotFound _) => .ok none
  | o => o

/-- The column at a position. -/
def at_ (r : Row) (i : Nat) (c : Column α) : Except StorageError α :=
  match r[i]? with
  | some (_, v) => decode c i.repr v
  | none => .error (.columnIndex i)

end Row

/-- What a statement answers: rows, and the number of rows it affected. -/
structure Outcome where
  rows : List Row := []
  affected : Nat := 0

end Forum.Sql
