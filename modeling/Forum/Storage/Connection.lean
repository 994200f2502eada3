import Forum.Error
import Forum.Url

/-!
# Connections to the database and to the cache

* `Storage.isCacheAddress`: can a cache be reached under this URL at all?
* `Storage.isDatabaseAddress`: the same for the database;
* `Storage.PoolUse`: how many connections are open, and how many of them are in use.
-/

namespace Forum.Storage

open Text

/-- A text whose octets are UTF-8 once it is decoded. -/
def isText (s : List Char) : Bool := (Utf8.decode? (Percent.decode s)).isSome

/-- A text without the slashes at its ends. -/
def withoutSlashes (s : List Char) : List Char :=
  ((s.dropWhile (· = '/')).reverse.dropWhile (· = '/')).reverse

/-- The number of a cache database. -/
def isDatabaseNumber (s : List Char) : Bool := (Width.int64.read s).isSome

/-- The schemes of a cache that is reached over a network. -/
def cacheSchemes : List String := ["redis", "valkey"]

/-- The schemes of a cache that is reached through a file. -/
def cacheFileSchemes : List String := ["redis+unix", "valkey+unix", "unix"]

/-- The versions of the protocol of caches. -/
def protocols : List String := ["2", "resp2", "3", "resp3"]

/-- Does the query name a protocol that there is, or none? -/
def protocolOk (u : Url) : Bool :=
  match u.query.reverse.lookup "protocol" with
  | some p => protocols.contains p
  | none => true

/-- Can a cache be reached under this URL? -/
def isCacheAddress (text : String) : Bool :=
  match Url.parse? text with
  | none => false
  | some u =>
    let scheme := String.ofList u.scheme
    if cacheSchemes.contains scheme then
      let db := withoutSlashes u.path
      u.host.isSome && (db.isEmpty || isDatabaseNumber db) && isText u.username &&
        isText u.password && protocolOk u
    else if cacheFileSchemes.contains scheme then
      (u.host.isNone || u.host = some "localhost".toList) && u.rooted &&
        (match u.query.reverse.lookup "db" with
          | some n => isDatabaseNumber n.toList
          | none => true) && protocolOk u
    else false

/-- The modes of encryption. -/
def sslModes : List String := ["disable", "allow", "prefer", "require", "verify-ca", "verify-full"]

/-- Is this an address of four numbers or of IPv6? -/
def isIp (s : List Char) : Bool :=
  Url.isIPv6 s || (!s.contains ':' && Url.groups? [s] = some 2)

/-- Can an option of the database have this value? -/
def optionOk : String × String → Bool
  | ("sslmode", v) | ("ssl-mode", v) => sslModes.any (equalAscii v)
  | ("statement-cache-capacity", v) => (Width.nat64.read v.toList).isSome
  | ("hostaddr", v) => isIp v.toList
  | ("port", v) => (Width.nat16.read v.toList).isSome
  | _ => true

/-- Can the database be reached under this URL? -/
def isDatabaseAddress (text : String) : Bool :=
  match Url.parse? text with
  | none => false
  | some u => isText u.username && isText u.password && u.query.all optionOk

/-- The connections that are open, and those among them that nobody uses. The two are counted one
after the other, so the second may be greater. -/
structure PoolUse where
  size : Nat
  idle : Nat
deriving DecidableEq, Repr

/-- The connections in use. -/
def PoolUse.inUse (p : PoolUse) : Nat := p.size - p.idle

end Forum.Storage
