import Forum.Json.Decoder
import Forum.Token.Base64url
import Forum.Token.Sha256

/-!
# Tokens

A token is three texts between dots: a header, the claims, and the signature of the first two. All
three are base64; header and claims are JSON.

* `Claims`, `TokenKey`: what a token says, and what it is issued and checked with;
* `TokenKey.issue`: a token for a user;
* `TokenKey.verify`: the claims of a token, or the first thing that is wrong with it.
-/

namespace Forum

/-- What a token says: the user, when it was issued, until when it holds, and by whom. -/
structure Claims where
  sub : String
  username : String
  iat : Int
  exp : Int
  iss : String
deriving DecidableEq, Repr

namespace Claims

/-- The members of the claims in the order of a token. -/
def jsonMembers (c : Claims) : List (String × Json) :=
  [("sub", .text c.sub), ("username", .text c.username), ("iat", .int c.iat), ("exp", .int c.exp),
    ("iss", .text c.iss)]

def toJson (c : Claims) : Json := .object c.jsonMembers

open Json Decoder in
def record : Record Claims :=
  (Record.ofFunction Claims.mk).required "sub" string |>.required "username" string
    |>.required "iat" (int .int64) |>.required "exp" (int .int64) |>.required "iss" string

end Claims

/-- What can be wrong with a token. -/
inductive TokenError where
  | invalidToken
  | base64
  | json
  | invalidAlgorithm
  | invalidSignature
  | missingClaim (name : String)
  | expired
  | invalidIssuer
  | invalidAudience
deriving DecidableEq, Repr

def TokenError.message : TokenError → String
  | invalidToken => "无效的 Token"
  | expired => "Token 已过期"
  | base64 => "Token 验证失败: Base64 error"
  | json => "Token 验证失败: JSON error"
  | invalidAlgorithm => "Token 验证失败: InvalidAlgorithm"
  | invalidSignature => "Token 验证失败: InvalidSignature"
  | missingClaim name => "Token 验证失败: Missing required claim: " ++ name
  | invalidIssuer => "Token 验证失败: InvalidIssuer"
  | invalidAudience => "Token 验证失败: InvalidAudience"

/-- What tokens are issued and checked with. -/
structure TokenKey where
  secret : String
  issuer : String
  lifetime : Int
deriving DecidableEq, Repr

namespace Token

/-- The algorithms that a header may name. -/
def algorithms : List String :=
  ["HS256", "HS384", "HS512", "ES256", "ES384", "RS256", "RS384", "RS512", "PS256", "PS384",
    "PS512", "EdDSA"]

/-- The algorithm of the tokens. -/
def algorithm : String := "HS256"

/-- The text of a part of a token. -/
def encodePart (v : Json) : List Char := Base64url.encode (Text.Utf8.encode v.render)

/-- The header of every token issued. -/
def header : List Char :=
  encodePart (.members [("typ", .text "JWT"), ("alg", .text algorithm)])

/-- A text cut at its last dot. -/
def splitLast? (s : List Char) : Option (List Char × List Char) :=
  let r := s.reverse
  match r.dropWhile (· ≠ '.') with
  | _ :: front => some (front.reverse, (r.takeWhile (· ≠ '.')).reverse)
  | [] => none

/-- One of some names, alone or as an object with the value null. -/
def oneOf (names : List String) : Json.Decoder Unit :=
  Json.Decoder.choice fun s => if names.contains s then some () else none

open Json Decoder in
/-- The parameters that all kinds of keys in a header share. -/
def keyCommon : Record Unit :=
  (Record.ofFunction fun _ _ _ _ _ _ _ _ => ())
    |>.optional "use" string
    |>.optional "key_ops" (listOf string)
    |>.optional "alg" (oneOf (algorithms ++ ["RSA1_5", "RSA-OAEP", "RSA-OAEP-256"]))
    |>.optional "kid" string |>.optional "x5u" string |>.optional "x5c" (listOf string)
    |>.optional "x5t" string |>.optional "x5t#S256" string

/-- The curves of keys in a header. -/
def curves : List String := ["P-256", "P-384", "P-521", "Ed25519"]

open Json Decoder in
/-- The parameters of the kinds of keys: on a curve, RSA, of plain octets, and of octet pairs. -/
def keyKinds : List (Record Unit) :=
  [(Record.ofFunction fun _ _ _ _ => ()).required "kty" (oneOf ["EC"])
      |>.required "crv" (oneOf curves) |>.required "x" string |>.required "y" string,
    (Record.ofFunction fun _ _ _ => ()).required "kty" (oneOf ["RSA"])
      |>.required "n" string |>.required "e" string,
    (Record.ofFunction fun _ _ => ()).required "kty" (oneOf ["oct"]) |>.required "k" string,
    (Record.ofFunction fun _ _ _ => ()).required "kty" (oneOf ["OKP"])
      |>.required "crv" (oneOf curves) |>.required "x" string]

/-- A key in a header: an object with the shared parameters and those of one kind. -/
def keyDecoder : Json.Decoder Unit := fun room d => do
  keyCommon.decoder room d
  if keyKinds.any fun k => (k.decoder room d).isOk then .ok () else .error .mismatch

open Json Decoder in
/-- A header, of which only the algorithm matters. -/
def headerRecord : Record String :=
  (Record.ofFunction fun _ alg _ _ _ _ _ _ _ _ => alg)
    |>.optional "typ" string
    |>.required "alg" (choice fun s => if algorithms.contains s then some s else none)
    |>.optional "cty" string |>.optional "jku" string |>.optional "jwk" keyDecoder
    |>.optional "kid" string |>.optional "x5u" string |>.optional "x5c" (listOf string)
    |>.optional "x5t" string |>.optional "x5t#S256" string

/-- The JSON text of a part of a token. -/
def decodePart (s : List Char) : Except TokenError (Json.Doc × Bool) :=
  match Base64url.decode? s with
  | some b => .ok (Json.Doc.ofOctets b)
  | none => .error .base64

/-- A typed reading of a part of a token. -/
def readPart {α : Type} (dec : Json.Decoder α) (d : Json.Doc × Bool) : Except TokenError α :=
  match dec.finish d with
  | .ok a => .ok a
  | .error _ => .error .json

/-- The names among the claims that are looked at once more. -/
def checkedNames : List String := ["exp", "nbf", "sub", "iss", "aud"]

/-- Does a checked name come twice, or a time with parts? Neither can be read. -/
def unreadable (ms : List (Option String × Json.Doc)) : Bool :=
  checkedNames.any (fun n => 1 < ms.countP (·.1 = some n)) ||
    match ms.lookup (some "nbf") with
    | some (.list xs _) => !xs.isEmpty
    | some (.object xs _) => !xs.isEmpty
    | _ => false

/-- Is the token for an audience? -/
def hasAudience (ms : List (Option String × Json.Doc)) : Bool :=
  match ms.lookup (some "aud") with
  | some (.text _) => true
  | some (.list xs _) => !xs.isEmpty && xs.all fun | .text _ => true | _ => false
  | _ => false

/-- How long after its end a token is still accepted, in seconds. -/
def leeway : Int := 60

end Token

namespace TokenKey

open Token

/-- The signature of a message: a keyed digest in base64. -/
def sign (k : TokenKey) (message : List Char) : List Char :=
  Base64url.encode
    (Sha256.hmac (Text.Utf8.encode k.secret.toList) (Text.Utf8.encode message))

/-- The token of some claims. -/
def encode (k : TokenKey) (c : Claims) : String :=
  let message := header ++ '.' :: encodePart (.members c.jsonMembers)
  String.ofList (message ++ '.' :: k.sign message)

/-- The claims of a token issued at a time. -/
def claims (k : TokenKey) (now : Int) (userId username : String) : Claims :=
  ⟨userId, username, now, now + k.lifetime, k.issuer⟩

/-- A token for a user. -/
def issue (k : TokenKey) (now : Int) (userId username : String) : String :=
  k.encode (k.claims now userId username)

/-- The checks on claims that have been read: the time, the issuer, and that there is no
audience. -/
def check (k : TokenKey) (now : Int) (c : Claims) (d : Json.Doc) : Except TokenError Claims :=
  match d with
  | .object ms _ =>
    if unreadable ms then .error .json
    else if c.exp < 0 then .error (.missingClaim "exp")
    else if c.exp < now - leeway then .error .expired
    else if c.iss ≠ k.issuer then .error .invalidIssuer
    else if hasAudience ms then .error .invalidAudience
    else .ok c
  | _ => .error (.missingClaim "exp")

/-- The claims of a token, or the first thing that is wrong with it. -/
def verify (k : TokenKey) (now : Int) (token : String) : Except TokenError Claims := do
  let some (message, signature) := splitLast? token.toList | .error .invalidToken
  let some (head, payload) := splitLast? message | .error .invalidToken
  let alg ← readPart headerRecord.decoder (← decodePart head)
  if alg ≠ algorithm then .error .invalidAlgorithm
  else if k.sign message ≠ signature then .error .invalidSignature
  else
    let d ← decodePart payload
    let c ← readPart Claims.record.decoder d
    k.check now c d.1

end TokenKey

end Forum
