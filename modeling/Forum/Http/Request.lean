import Forum.Http.Input
import Forum.Http.Reply

/-!
# Requests

* `Request`: method, target, headers and body, as they arrive;
* `Request.header?`, `headerText?`: the first header of a name, and its text if that is plain;
* `ContentType.isJson`: the media types of JSON;
* `Request.path`, `Request.form`: the parts of the target;
* `Request.readBody`: the typed reading of the body.
-/

namespace Forum

/-- A request. The values of headers and the body are octets. -/
structure Request where
  method : String
  target : List Char
  headers : List (String × List UInt8) := []
  body : List UInt8 := []

namespace ContentType

/-- The characters of a name in a media type. -/
def isToken (c : Char) : Bool :=
  c.isAlphanum ||
    ['!', '#', '$', '%', '&', '\'', '*', '+', '-', '.', '^', '_', '\x60', '|', '~'].contains c

/-- What may follow the value of a parameter. -/
def afterQuoted? : List Char → Option (List Char)
  | [] => some []
  | ';' :: s => some s
  | ' ' :: s => afterQuoted? s
  | _ => none

/-- The text after a quoted value: a backslash takes the next character as it is. -/
def quoted? (first : Bool) : List Char → Option (List Char)
  | '\\' :: c :: s => if 31 < c.toNat ∧ c.toNat ≠ 127 then quoted? false s else none
  | '"' :: s => if first then none else afterQuoted? s
  | c :: s => if 31 < c.toNat ∧ c.toNat ≠ 127 ∧ c ≠ '\\' then quoted? false s else none
  | [] => none

/-- Well-formed parameters: names and values after blanks, between semicolons. -/
def parameters (fuel : Nat) (s : List Char) : Bool :=
  match fuel, s.dropWhile (· = ' ') with
  | _, [] => true
  | 0, _ => false
  | fuel + 1, s =>
    let name := s.takeWhile isToken
    match name, s.dropWhile isToken with
    | [], _ => false
    | _, '=' :: '"' :: s =>
      match quoted? true s with
      | some s => parameters fuel s
      | none => false
    | _, '=' :: s =>
      let value := s.takeWhile isToken
      match value, s.dropWhile isToken with
      | _, [] => true
      | _ :: _, ';' :: s => parameters fuel s
      | _, _ => false
    | _, _ => false

/-- Is a media type JSON, or of a kind whose name ends in `+json`? -/
def isJson (s : List Char) : Bool :=
  let type := s.takeWhile isToken
  match s.dropWhile isToken with
  | '/' :: s =>
    let sub := (s.takeWhile isToken).map Text.lowerAscii
    let parametersOk := match s.dropWhile isToken with
      | [] => true
      | ';' :: s => parameters (s.length + 1) s
      | _ => false
    let reversed := sub.reverse
    let suffix := (reversed.takeWhile (· ≠ '+')).reverse
    let front := ((reversed.dropWhile (· ≠ '+')).drop 1).reverse
    let json := "json".toList
    type.map Text.lowerAscii = "application".toList && parametersOk &&
      (if front.isEmpty then sub = json else suffix = json || front = json)
  | _ => false

end ContentType

/-- Why a body has no typed reading. -/
inductive BodyError where
  | contentType
  | tooLong
  | mismatch
  | malformed
deriving DecidableEq, Repr

def BodyError.message : BodyError → String
  | contentType => "Expected request with \x60Content-Type: application/json\x60"
  | tooLong => "Failed to buffer the request body: length limit exceeded"
  | mismatch => "Failed to deserialize the JSON body into the target type"
  | malformed => "Failed to parse the request body as JSON"

/-- The longest body that is read. -/
def maxBody : Nat := 2097152

/-- The fault of a query string. -/
def queryMessage : String := "Failed to deserialize query string"

namespace Request

/-- The first header of a name in small letters. -/
def header? (r : Request) (name : String) : Option (List UInt8) :=
  (r.headers.find? fun h => h.1.toList.map Text.lowerAscii = name.toList).map (·.2)

/-- The text of a header of visible ASCII characters, spaces and tabs. -/
def plainText? (b : List UInt8) : Option (List Char) :=
  if b.all fun o => o = 9 || (32 ≤ o && o < 127) then some (b.map fun o => Char.ofNat o.toNat)
  else none

/-- The first header of a name, if it is plain text. -/
def headerText? (r : Request) (name : String) : Option (List Char) :=
  (r.header? name).bind plainText?

/-- The target without a scheme and a host. -/
def local_ (r : Request) : List Char :=
  match r.target with
  | '/' :: _ => r.target
  | s =>
    match s.dropWhile (· ≠ ':') with
    | ':' :: '/' :: '/' :: s =>
      match s.dropWhile fun c => c ≠ '/' && c ≠ '?' && c ≠ '#' with
      | '/' :: s => '/' :: s
      | s => '/' :: s
    | _ => s

/-- The path of the target. -/
def path (r : Request) : List Char := r.local_.takeWhile fun c => c ≠ '?' && c ≠ '#'

/-- The fields of the target. -/
def form (r : Request) : Form :=
  let s := r.local_.takeWhile (· ≠ '#')
  Text.Percent.formPairs ((s.dropWhile (· ≠ '?')).drop 1)

/-- The typed reading of a JSON body. -/
def readBody {α : Type} (r : Request) (dec : Json.Decoder α) : Except BodyError α :=
  if !(r.headerText? "content-type").any ContentType.isJson then .error .contentType
  else if maxBody < r.body.length then .error .tooLong
  else
    match dec.runOctets r.body with
    | .ok a => .ok a
    | .error .mismatch => .error .mismatch
    | .error .malformed => .error .malformed

end Request

end Forum
