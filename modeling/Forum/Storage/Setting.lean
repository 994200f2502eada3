import Forum.Storage.Basic

/-!
# Settings in the database, with a cache

* `Storage.cached?`, `Storage.remember`: typed values in the cache;
* `Storage.setting`: an integer setting. The cache is asked first and told afterwards; no failure of
  the cache fails a reading.
-/

namespace Forum.Storage

open Sql

/-- The value that the cache has under a key; a text that is no such value is an error. -/
def cached? {α : Type} (key : String) (dec : Json.Decoder α) :
    Storage (Except SystemError (Option α)) := do
  match ← cache (.get key) with
  | .error e => return .error e
  | .ok none => return .ok none
  | .ok (some text) =>
    match dec.run text with
    | .ok a => return .ok (some a)
    | .error _ => return .error (.internal "Cache deserialization error")

/-- A value for the cache, for a number of seconds. -/
def remember (key : String) (value : Json) (seconds : Nat) : Storage (Except SystemError Unit) :=
  cache (.set key seconds value.toText)

/-- The key of a setting in the cache. -/
def cacheKey (key : String) : String := "answer:config:" ++ key

/-- The integer that a setting spells. -/
def settingValue? (text : String) : Option Int := Text.Width.int64.read (Text.trim text.toList)

/-- A setting in the database. -/
def storedSetting (key : String) : Stored (Option Int) := do
  return (← fetchOptional (.setting key) (scalar .text)).bind settingValue?

/-- An integer setting; `ttl` is how many seconds the cache keeps it, none without a cache. -/
def setting (ttl : Option Nat) (key : String) : Stored (Option Int) :=
  match ttl with
  | none => storedSetting key
  | some seconds => ExceptT.mk do
    match ← cached? (cacheKey key) (.int .int64) with
    | .ok (some n) => return .ok (some n)
    | _ =>
      match ← (storedSetting key).run with
      | .ok (some n) => do
        let _ ← remember (cacheKey key) (.int n) seconds
        return .ok (some n)
      | r => return r

end Forum.Storage
