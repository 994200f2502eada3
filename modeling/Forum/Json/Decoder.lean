import Forum.Json.Doc

/-!
# Typed readings of JSON texts

A decoder takes a document in the order of its text, so the first of several faults is the one that
is reported.

* `Fault`: a value of the wrong kind, or a text that is not JSON;
* `Decoder`, with `int`, `bool`, `string`, `any`, `nullable`, `listOf`, `choice`;
* `Record`: decoders of structures, built field by field;
* `Decoder.run`, `Decoder.runOctets`: a whole text.
-/

namespace Forum.Json

/-- Why a text has no typed reading: it is JSON so far but not of the type, or it is not JSON. -/
inductive Fault where
  | mismatch
  | malformed
deriving DecidableEq, Repr

/-- How deep lists and objects may be nested. -/
def maxNesting : Nat := 127

/-- A typed reading of documents; the number is how many lists and objects may still be opened. -/
abbrev Decoder (α : Type) := Nat → Doc → Except Fault α

namespace Doc

/-- The fault of a document of the wrong kind. A list or an object is found to be wrong at its first
bracket. -/
def unexpected : Doc → Fault
  | .broken | .text none | .number none => .malformed
  | _ => .mismatch

end Doc

namespace Decoder

/-- An integer in range. -/
def int (w : Text.Width) : Decoder Int
  | _, .number (some (.int n)) => if w.lo ≤ n ∧ n ≤ w.hi then .ok n else .error .mismatch
  | _, d => .error d.unexpected

/-- A truth value. -/
def bool : Decoder Bool
  | _, .bool b => .ok b
  | _, d => .error d.unexpected

/-- A text. -/
def string : Decoder String
  | _, .text (some s) => .ok s
  | _, d => .error d.unexpected

/-- A text that a function reads. -/
def textOf {α : Type} (f : String → Option α) : Decoder α
  | _, .text (some s) => match f s with
    | some a => .ok a
    | none => .error .mismatch
  | _, d => .error d.unexpected

/-- Null, or a value. -/
def nullable {α : Type} (dec : Decoder α) : Decoder (Option α)
  | _, .null => .ok none
  | room, d => some <$> dec room d

/-- Any value at all. -/
def any : Nat → Doc → Except Fault Json
  | _, .null => .ok .null
  | _, .bool b => .ok (.bool b)
  | _, .number (some n) => .ok (.number n)
  | _, .text (some s) => .ok (.text s)
  | 0, _ => .error .malformed
  | room + 1, .list xs ending => do
    let vs ← anyItems room xs
    if ending = .closed then .ok (.list vs) else .error .malformed
  | room + 1, .object ms ending => do
    let vs ← anyMembers room [] ms
    if ending = .closed then .ok (.members vs) else .error .malformed
  | _, _ => .error .malformed
where
  anyItems (room : Nat) : List Doc → Except Fault (List Json)
    | [] => .ok []
    | x :: xs => do
      let v ← any room x
      let vs ← anyItems room xs
      return v :: vs
  anyMembers (room : Nat) (acc : List (String × Json)) :
      List (Option String × Doc) → Except Fault (List (String × Json))
    | [] => .ok acc
    | (none, _) :: _ => .error .malformed
    | (some n, x) :: ms => do
      let v ← any room x
      anyMembers room (insert n v acc) ms

/-- A list. -/
def listOf {α : Type} (dec : Decoder α) : Decoder (List α)
  | room + 1, .list xs ending => do
    let vs ← xs.mapM (dec room)
    if ending = .closed then .ok vs else .error .malformed
  | 0, .list _ _ => .error .malformed
  | _, d => .error d.unexpected

/-- One of several names, alone or as the only member of an object whose value is null. Nothing else
can start such a value. -/
def choice {α : Type} (named : String → Option α) : Decoder α
  | _, .text (some s) => match named s with
    | some a => .ok a
    | none => .error .mismatch
  | 0, _ => .error .malformed
  | _, .object [] .oddName => .error .mismatch
  | _, .object ((some s, v) :: more) ending =>
    match named s, v with
    | none, _ => .error .mismatch
    | some a, .null => if more.isEmpty ∧ ending = .closed then .ok a else .error .malformed
    | some _, v => .error v.unexpected
  | _, _ => .error .malformed

end Decoder

/-! ## Structures -/

/-- What is known of a field before its type is: its name, whether its value fits, and whether it
may be missing among members or at the end of a list. -/
structure Field where
  name : String
  check : Nat → Doc → Except Fault Unit
  spare : Bool
  tail : Bool

/-- A structure with named fields. -/
structure Record (α : Type) where
  fields : List Field
  build : Nat → (String → Option Doc) → Except Fault α

namespace Record

variable {α β : Type}

/-- A structure without fields. -/
def ofFunction (f : α) : Record α := ⟨[], fun _ _ => .ok f⟩

/-- One more field: its decoder, and the value it has when it is missing. -/
def extend (r : Record (α → β)) (name : String) (dec : Decoder α) (absent : Option α)
    (tail : Bool) : Record β where
  fields := r.fields ++
    [⟨name, fun room d => (dec room d).map fun _ => (), absent.isSome, tail⟩]
  build room find := do
    let f ← r.build room find
    match find name, absent with
    | some d, _ => return f (← dec room d)
    | none, some a => return f a
    | none, none => .error .mismatch

/-- A field that must be there. -/
def required (r : Record (α → β)) (name : String) (dec : Decoder α) : Record β :=
  r.extend name dec none false

/-- A field that may be null or missing. In a list it must be there. -/
def optional (r : Record (Option α → β)) (name : String) (dec : Decoder α) : Record β :=
  r.extend name (.nullable dec) (some none) false

/-- A field with a value of its own when it is missing. -/
def defaulted (r : Record (α → β)) (name : String) (dec : Decoder α) (a : α) : Record β :=
  r.extend name dec (some a) true

/-- Members in the order of the text: a known name must not come twice and its value must fit. -/
def checkMembers (r : Record α) (room : Nat) (seen : List String) :
    List (Option String × Doc) → Except Fault Unit
  | [] => .ok ()
  | (none, _) :: _ => .error .malformed
  | (some n, d) :: ms =>
    match r.fields.find? (·.name = n) with
    | none => if d.isWhole then checkMembers r room seen ms else .error .malformed
    | some f =>
      if seen.contains n then .error .mismatch
      else do
        f.check room d
        checkMembers r room (n :: seen) ms

/-- Items for the fields in order: too many are no JSON for this type, too few no value of it. -/
def checkItems (room : Nat) : List Field → List Doc → Ending → Except Fault Unit
  | f :: fs, d :: ds, ending => do
    f.check room d
    checkItems room fs ds ending
  | [], [], .closed => .ok ()
  | fs, [], .closed => if fs.all (·.tail) then .ok () else .error .mismatch
  | _, _, _ => .error .malformed

/-- The decoder of a structure: an object, or a list of the fields in order. -/
def decoder (r : Record α) : Decoder α
  | room + 1, .object ms ending => do
    r.checkMembers room [] ms
    if ending ≠ .closed then .error .malformed
    else if r.fields.any fun f => !f.spare && !ms.any fun m => m.1 = some f.name then
      .error .mismatch
    else r.build room fun n => ms.lookup (some n)
  | room + 1, .list xs ending => do
    checkItems room r.fields xs ending
    r.build room fun n => ((r.fields.map (·.name)).zip xs).lookup n
  | 0, .object _ _ | 0, .list _ _ => .error .malformed
  | _, d => .error d.unexpected

end Record

namespace Decoder

variable {α : Type}

/-- The reading of a document with what follows it checked. -/
def finish (dec : Decoder α) (d : Doc × Bool) : Except Fault α := do
  let a ← dec maxNesting d.1
  if d.2 then .ok a else .error .malformed

/-- A whole text. -/
def run (dec : Decoder α) (s : String) : Except Fault α := dec.finish (Doc.ofText s.toList)

/-- A whole text as octets. -/
def runOctets (dec : Decoder α) (b : List UInt8) : Except Fault α := dec.finish (Doc.ofOctets b)

/-- A value that is already there. -/
def runValue (dec : Decoder α) (v : Json) : Except Fault α := dec maxNesting (.ofJson v)

end Decoder

end Forum.Json
