import Forum.Proofs.JsonIntegers
import Forum.Proofs.Readings
import Forum.Storage.Setting

/-!
# Settings in the cache

A setting is looked up in the cache first. Whatever the cache does, a look-up tells what the table
has, as long as the integers that are found in the cache were put there by earlier look-ups.

* `settingOf`, `hit?`: what a reply of the table and one of the cache come to;
* `SettingCourse`: the courses of a look-up, and what it asks and answers on each of them;
* `Lookup`, `IsHistory`: look-ups in turn, with all that was asked and answered;
* `FromTable`, `OwnEntries`: the table does not change, and the cache has no integers of others;
* `Faithful`: a look-up answers as the table does, and keeps the cache right;
* **`plays_setting`**: the courses are just those that a look-up can take;
* **`lookups_faithful`**: every look-up of a history is faithful to the table.
-/

namespace Forum.Storage

open Sql

variable {t past rest : Transcript StorageOp.Answer} {key : String} {seconds : Nat}
  {r : Except ServiceError (Option Int)}

/-! ## One look-up -/

/-- The integer that a text in the cache is, or what is wrong with it. -/
def decoded (text : String) : Except Json.Fault Int := (Json.Decoder.int .int64).run text

/-- What a reply of the cache comes to. -/
def cachedOf : Except SystemError (Option String) → Except SystemError (Option Int)
  | .error e => .error e
  | .ok none => .ok none
  | .ok (some text) =>
    match decoded text with
    | .ok n => .ok (some n)
    | .error _ => .error (.internal "Cache deserialization error")

/-- What a reply of the table comes to. -/
def settingOf (reply : Except StorageError Outcome) : Except ServiceError (Option Int) :=
  ((ofStorage reply).bind (first (scalar .text))).map (·.bind settingValue?)

theorem run_storedSetting : (storedSetting key).run =
    (fun r => (r.bind (first (scalar .text))).map (·.bind settingValue?)) <$>
      (send (.setting key)).run := by
  have hmap : storedSetting key =
      (fun found => found.bind settingValue?) <$> fetchOptional (.setting key) (scalar .text) :=
    (map_eq_pure_bind _ _).symm
  rw [hmap, ExceptT.run_map, run_fetchOptional, ← comp_map]
  rfl

theorem plays_storedSetting : (storedSetting key).run.Plays t r ↔
    ∃ reply, t = [⟨.run (.setting key), reply⟩] ∧ settingOf reply = r := by
  rw [run_storedSetting]
  exact plays_reading

theorem run_cached? (key : String) :
    cached? key (.int .int64) = Program.ask (StorageOp.cache (.get key)) (.done ∘ cachedOf) := by
  refine congrArg (Program.ask (StorageOp.cache (.get key))) (funext fun reply => ?_)
  obtain e | _ | text := reply
  · rfl
  · rfl
  · dsimp only [Program.bind, Function.comp, cachedOf, decoded]
    cases (Json.Decoder.int .int64).run text <;> rfl

/-- A reading of the table, after which the cache is told. -/
def readThrough (seconds : Nat) (key : String) : Storage (Except ServiceError (Option Int)) := do
  match ← (storedSetting key).run with
  | .ok (some n) => do
    let _ ← remember (cacheKey key) (.int n) seconds
    return .ok (some n)
  | r => return r

theorem run_setting (seconds : Nat) (key : String) : (setting (some seconds) key).run =
    Program.ask (StorageOp.cache (.get (cacheKey key))) fun reply =>
      match cachedOf reply with
      | .ok (some n) => pure (.ok (some n))
      | _ => readThrough seconds key := by
  change Program.bind (cached? (cacheKey key) (.int .int64)) _ = _
  rw [run_cached?]
  refine congrArg (Program.ask (StorageOp.cache (.get (cacheKey key)))) (funext fun reply => ?_)
  dsimp only [Program.bind, Function.comp]
  obtain e | _ | n := cachedOf reply <;> rfl

/-- The courses of a look-up: the cache has an integer; it has none, and the table gives none or
fails; or the table gives one, which is sent to the cache. -/
inductive SettingCourse (seconds : Nat) (key : String) :
    Transcript StorageOp.Answer → Except ServiceError (Option Int) → Prop
  | hit {found : Except SystemError (Option String)} {n : Int}
    (hit : cachedOf found = .ok (some n)) :
    SettingCourse seconds key [⟨.cache (.get (cacheKey key)), found⟩] (.ok (some n))
  | read {found : Except SystemError (Option String)} {reply : Except StorageError Outcome}
    {r : Except ServiceError (Option Int)} (miss : ∀ n, cachedOf found ≠ .ok (some n))
    (read : settingOf reply = r) (nothing : ∀ n, r ≠ .ok (some n)) :
    SettingCourse seconds key
      [⟨.cache (.get (cacheKey key)), found⟩, ⟨.run (.setting key), reply⟩] r
  | stored {found : Except SystemError (Option String)} {reply : Except StorageError Outcome}
    {n : Int} {answer : Except SystemError Unit} (miss : ∀ n, cachedOf found ≠ .ok (some n))
    (read : settingOf reply = .ok (some n)) :
    SettingCourse seconds key
      [⟨.cache (.get (cacheKey key)), found⟩, ⟨.run (.setting key), reply⟩,
        ⟨.cache (.set (cacheKey key) seconds (Json.int n).toText), answer⟩] (.ok (some n))

theorem plays_readThrough : (readThrough seconds key).Plays t r ↔
    ∃ reply, settingOf reply = r ∧
      ((∀ n, r ≠ .ok (some n)) ∧ t = [⟨.run (.setting key), reply⟩] ∨
        ∃ n answer, r = .ok (some n) ∧ t = [⟨.run (.setting key), reply⟩,
          ⟨.cache (.set (cacheKey key) seconds (Json.int n).toText), answer⟩]) := by
  unfold readThrough
  rw [Program.plays_bind]
  constructor
  · rintro ⟨t₁, read, t₂, hread, hend, rfl⟩
    obtain ⟨reply, rfl, hreply⟩ := plays_storedSetting.mp hread
    obtain e | _ | n := read
    · obtain ⟨rfl, rfl⟩ := hend
      exact ⟨reply, hreply, .inl ⟨nofun, rfl⟩⟩
    · obtain ⟨rfl, rfl⟩ := hend
      exact ⟨reply, hreply, .inl ⟨nofun, rfl⟩⟩
    · obtain ⟨answer, _, rfl, rfl, rfl⟩ := hend
      exact ⟨reply, hreply, .inr ⟨n, answer, rfl, rfl⟩⟩
  · rintro ⟨reply, hreply, ⟨hnone, rfl⟩ | ⟨n, answer, rfl, rfl⟩⟩
    · refine ⟨_, r, [], plays_storedSetting.mpr ⟨reply, rfl, hreply⟩, ?_, rfl⟩
      obtain e | _ | n := r
      · exact ⟨rfl, rfl⟩
      · exact ⟨rfl, rfl⟩
      · exact absurd rfl (hnone n)
    · exact ⟨_, .ok (some n), _, plays_storedSetting.mpr ⟨reply, rfl, hreply⟩,
        ⟨answer, [], rfl, rfl, rfl⟩, rfl⟩

/-- **The courses of a look-up** are just those that it can take. -/
theorem plays_setting :
    (setting (some seconds) key).run.Plays t r ↔ SettingCourse seconds key t r := by
  rw [run_setting]
  constructor
  · rintro ⟨found, rest, rfl, hrest⟩
    dsimp only at hrest
    split at hrest
    · next n hit =>
      obtain ⟨rfl, rfl⟩ := hrest
      exact .hit hit
    · next miss =>
      obtain ⟨reply, hreply, ⟨hnone, rfl⟩ | ⟨n, answer, rfl, rfl⟩⟩ := plays_readThrough.mp hrest
      · exact .read miss hreply hnone
      · exact .stored miss hreply
  · intro h
    cases h with
    | @hit found n hit =>
      refine ⟨found, [], rfl, ?_⟩
      dsimp only
      rw [hit]
      exact ⟨rfl, rfl⟩
    | @read found reply r miss read nothing =>
      refine ⟨found, _, rfl, ?_⟩
      dsimp only
      split
      · next n hit => exact absurd hit (miss n)
      · exact plays_readThrough.mpr ⟨reply, read, .inl ⟨nothing, rfl⟩⟩
    | @stored found reply n answer miss read =>
      refine ⟨found, _, rfl, ?_⟩
      dsimp only
      split
      · next n hit => exact absurd hit (miss n)
      · exact plays_readThrough.mpr ⟨reply, read, .inr ⟨n, answer, rfl, rfl⟩⟩

/-! ## A table that does not change -/

variable {table : String → Option String} {n : Int} {text : String}

/-- The integer that a table has for a setting, if it has one. -/
def valueIn (table : String → Option String) (key : String) : Option Int :=
  (table key).bind settingValue?

/-- The rows of a table for a setting: one or none. -/
def rowsIn (table : String → Option String) (key : String) : List Row :=
  (table key).toList.map fun value => [("value", .text value)]

/-- An exchange over a table: its readings give its rows, or fail. -/
def FromTable (table : String → Option String) : Exchange StorageOp.Answer → Prop
  | ⟨.run (.setting key), .ok o⟩ => o.rows = rowsIn table key
  | _ => True

theorem settingOf_rows {o : Outcome} (h : o.rows = rowsIn table key) :
    settingOf (.ok o) = .ok (valueIn table key) := by
  obtain ⟨rows, affected⟩ := o
  subst h
  unfold rowsIn valueIn
  cases table key <;> rfl

theorem eq_valueIn_of_settingOf {reply : Except StorageError Outcome} {v : Option Int}
    (h : FromTable table ⟨.run (.setting key), reply⟩) (hreply : settingOf reply = .ok v) :
    v = valueIn table key := by
  cases reply with
  | error cause => cases hreply
  | ok o => exact Except.ok.inj (hreply.symm.trans (settingOf_rows h))

theorem cause_of_settingOf {reply : Except StorageError Outcome} {e : ServiceError}
    (h : FromTable table ⟨.run (.setting key), reply⟩) (hreply : settingOf reply = .error e) :
    ∃ cause, reply = .error cause ∧ e = .database cause := by
  cases reply with
  | error cause =>
    cases hreply
    exact ⟨cause, rfl, rfl⟩
  | ok o =>
    rw [settingOf_rows h] at hreply
    cases hreply

theorem plays_setting_none {o : Outcome} (h : o.rows = rowsIn table key) :
    (setting none key).run.Plays [⟨.run (.setting key), .ok o⟩] (.ok (valueIn table key)) :=
  plays_storedSetting.mpr ⟨_, rfl, settingOf_rows h⟩

theorem decoded_sent (h : valueIn table key = some n) : decoded (Json.int n).toText = .ok n := by
  obtain ⟨value, -, hvalue⟩ := Option.bind_eq_some_iff.mp h
  exact Json.run_int_toText (Text.Width.bounds_of_read hvalue)

theorem cachedOf_eq_hit {found : Except SystemError (Option String)}
    (h : cachedOf found = .ok (some n)) : ∃ text, found = .ok (some text) ∧ decoded text = .ok n := by
  obtain e | _ | text := found
  · cases h
  · cases h
  · refine ⟨text, rfl, ?_⟩
    dsimp only [cachedOf] at h
    split at h
    · next hdecoded =>
      cases h
      exact hdecoded
    · cases h

theorem cacheKey_injective : Function.Injective cacheKey := by
  intro k k' h
  have hlist := congrArg String.toList h
  rw [cacheKey, cacheKey, String.toList_append, String.toList_append] at hlist
  exact String.toList_inj.mp (List.append_cancel_left hlist)

/-! ## Look-ups in turn -/

/-- A look-up: what was asked and answered, and what it came to. -/
structure Lookup where
  key : String
  exchanges : Transcript StorageOp.Answer
  result : Except ServiceError (Option Int)

/-- Look-ups in turn, with a cache that keeps integers for a number of seconds. -/
def IsHistory (seconds : Nat) (history : List Lookup) : Prop :=
  ∀ l ∈ history, (setting (some seconds) l.key).run.Plays l.exchanges l.result

/-- All that was asked and answered, in order. -/
def exchanges (history : List Lookup) : Transcript StorageOp.Answer :=
  history.flatMap Lookup.exchanges

/-- An integer that is found under the key of a setting was sent there before. Whether the cache
reported success does not matter. -/
def Own (past : Transcript StorageOp.Answer) : Exchange StorageOp.Answer → Prop
  | ⟨.cache (.get k), .ok (some text)⟩ => ∀ key n, k = cacheKey key → decoded text = .ok n →
      ∃ seconds answer, ⟨.cache (.set k seconds text), answer⟩ ∈ past
  | _ => True

/-- The cache has no integers of others. -/
def OwnEntries : (past t : Transcript StorageOp.Answer) → Prop
  | _, [] => True
  | past, x :: rest => Own past x ∧ OwnEntries (past ++ [x]) rest

theorem ownEntries_append {t t' : Transcript StorageOp.Answer} :
    OwnEntries past (t ++ t') ↔ OwnEntries past t ∧ OwnEntries (past ++ t) t' := by
  induction t generalizing past with
  | nil => simp [OwnEntries]
  | cons x rest ih => simp [OwnEntries, ih, and_assoc]

/-- What is sent to the cache is what the table has. -/
def Kept (table : String → Option String) : Exchange StorageOp.Answer → Prop
  | ⟨.cache (.set k _ text), _⟩ =>
    ∃ key n, k = cacheKey key ∧ valueIn table key = some n ∧ decoded text = .ok n
  | _ => True

/-- A look-up that is faithful to a table. -/
structure Faithful (table : String → Option String) (seconds : Nat) (l : Lookup) : Prop where
  /-- What it tells is what the table has, and what is told without a cache. -/
  value : ∀ v, l.result = .ok v → v = valueIn table l.key ∧
    ∀ o : Outcome, o.rows = rowsIn table l.key →
      (setting none l.key).run.Plays [⟨.run (.setting l.key), .ok o⟩] (.ok v)
  /-- It fails only as the table does, which was read. -/
  failure : ∀ e, l.result = .error e →
    ∃ cause, ⟨.run (.setting l.key), .error cause⟩ ∈ l.exchanges ∧ e = .database cause
  /-- Where the cache fails, it tells what is told without a cache. -/
  unharmed : ∀ c e, ⟨.cache c, .error e⟩ ∈ l.exchanges → ∃ reply,
    ⟨.run (.setting l.key), reply⟩ ∈ l.exchanges ∧
      (setting none l.key).run.Plays [⟨.run (.setting l.key), reply⟩] l.result
  /-- What is sent to the cache is what the table has for the setting. -/
  sent : ∀ k ttl text answer, ⟨.cache (.set k ttl text), answer⟩ ∈ l.exchanges →
    k = cacheKey l.key ∧ ttl = seconds ∧
      ∃ n, valueIn table l.key = some n ∧ decoded text = .ok n
  /-- After a text that is no integer, an integer that the table has is sent. -/
  repaired : ∀ text fault o n, ⟨.cache (.get (cacheKey l.key)), .ok (some text)⟩ ∈ l.exchanges →
    decoded text = .error fault → ⟨.run (.setting l.key), .ok o⟩ ∈ l.exchanges →
    valueIn table l.key = some n → ∃ text' answer,
      ⟨.cache (.set (cacheKey l.key) seconds text'), answer⟩ ∈ l.exchanges ∧ decoded text' = .ok n

/-- What is found in the cache is what the table has. -/
theorem valueIn_of_hit {found : Except SystemError (Option String)}
    (hpast : ∀ x ∈ past, Kept table x) (hown : Own past ⟨.cache (.get (cacheKey key)), found⟩)
    (hit : cachedOf found = .ok (some n)) : valueIn table key = some n := by
  obtain ⟨text, rfl, hdecoded⟩ := cachedOf_eq_hit hit
  obtain ⟨_, _, hmem⟩ := hown key n rfl hdecoded
  obtain ⟨key', n', hkey, hvalue, hsent⟩ := hpast _ hmem
  obtain rfl := cacheKey_injective hkey
  cases hdecoded.symm.trans hsent
  exact hvalue

/-- **A look-up is faithful** after look-ups that sent the cache what the table has. -/
theorem faithful_of_course (hcourse : SettingCourse seconds key t r)
    (htable : ∀ x ∈ t, FromTable table x) (hown : OwnEntries past t)
    (hpast : ∀ x ∈ past, Kept table x) : Faithful table seconds ⟨key, t, r⟩ := by
  cases hcourse with
  | hit hit =>
    have hvalue := valueIn_of_hit hpast hown.1 hit
    constructor
    case value =>
      rintro v ⟨⟩
      exact ⟨hvalue.symm, fun o ho => hvalue ▸ plays_setting_none ho⟩
    case failure => nofun
    case unharmed =>
      intro c e hmem
      cases List.mem_singleton.mp hmem
      cases hit
    case sent =>
      intro k ttl text answer hmem
      cases List.mem_singleton.mp hmem
    case repaired =>
      intro text fault o n _ _ hmem
      cases List.mem_singleton.mp hmem
  | @read found reply r miss read nothing =>
    have hfrom : FromTable table ⟨.run (.setting key), reply⟩ := htable _ (by simp)
    constructor
    case value =>
      rintro v rfl
      have hv := eq_valueIn_of_settingOf hfrom read
      exact ⟨hv, fun o ho => hv ▸ plays_setting_none ho⟩
    case failure =>
      rintro e rfl
      obtain ⟨cause, rfl, rfl⟩ := cause_of_settingOf hfrom read
      exact ⟨cause, by simp, rfl⟩
    case unharmed =>
      exact fun _ _ _ => ⟨reply, by simp, plays_storedSetting.mpr ⟨reply, rfl, read⟩⟩
    case sent =>
      intro k ttl text answer hmem
      obtain h | h := List.mem_pair.mp hmem <;> cases h
    case repaired =>
      -- The table was read and has an integer, so this is not the course that was taken.
      intro text fault o n _ _ hmem hvalue
      obtain h | h := List.mem_pair.mp hmem <;> cases h
      have hr : r = .ok (some n) := by rw [← read, settingOf_rows hfrom, hvalue]
      exact absurd hr (nothing n)
  | @stored found reply n answer miss read =>
    have hfrom : FromTable table ⟨.run (.setting key), reply⟩ := htable _ (by simp)
    have hvalue : valueIn table key = some n := (eq_valueIn_of_settingOf hfrom read).symm
    constructor
    case value =>
      rintro v ⟨⟩
      exact ⟨hvalue.symm, fun o ho => hvalue ▸ plays_setting_none ho⟩
    case failure => nofun
    case unharmed =>
      exact fun _ _ _ => ⟨reply, by simp, plays_storedSetting.mpr ⟨reply, rfl, read⟩⟩
    case sent =>
      intro k ttl text answer' hmem
      simp only [List.mem_cons, List.not_mem_nil, or_false] at hmem
      obtain h | h | h := hmem <;> cases h
      exact ⟨rfl, rfl, n, hvalue, decoded_sent hvalue⟩
    case repaired =>
      intro text fault o m _ _ _ hm
      cases hvalue.symm.trans hm
      exact ⟨_, answer, by simp, decoded_sent hvalue⟩

/-- A faithful look-up sends the cache what the table has. -/
theorem Faithful.kept {l : Lookup} (h : Faithful table seconds l) :
    ∀ x ∈ l.exchanges, Kept table x := by
  rintro ⟨op, answer⟩ hmem
  cases op with
  | cache c =>
    cases c with
    | set k ttl text =>
      obtain ⟨rfl, -, n, hvalue, hdecoded⟩ := h.sent k ttl text answer hmem
      exact ⟨l.key, n, rfl, hvalue, hdecoded⟩
    | _ => trivial
  | _ => trivial

theorem faithful_from {history : List Lookup} (hplays : IsHistory seconds history)
    (htable : ∀ x ∈ exchanges history, FromTable table x)
    (hown : OwnEntries past (exchanges history)) (hpast : ∀ x ∈ past, Kept table x) :
    ∀ l ∈ history, Faithful table seconds l := by
  induction history generalizing past with
  | nil => exact List.forall_mem_nil _
  | cons l rest ih =>
    obtain ⟨hl, hrest⟩ := List.forall_mem_cons.mp hplays
    obtain ⟨htl, htrest⟩ := List.forall_mem_append.mp htable
    obtain ⟨hownl, hownrest⟩ := ownEntries_append.mp hown
    have hfaithful := faithful_of_course (plays_setting.mp hl) htl hownl hpast
    refine List.forall_mem_cons.mpr ⟨hfaithful, ih hrest htrest hownrest ?_⟩
    exact List.forall_mem_append.mpr ⟨hpast, hfaithful.kept⟩

/-- **Every look-up of a history is faithful to the table**, whatever the cache does, as long as
the table does not change and the integers in the cache are those that look-ups sent there. -/
theorem lookups_faithful {history : List Lookup} (hplays : IsHistory seconds history)
    (htable : ∀ x ∈ exchanges history, FromTable table x)
    (hown : OwnEntries [] (exchanges history)) : ∀ l ∈ history, Faithful table seconds l :=
  faithful_from hplays htable hown (List.forall_mem_nil _)

/-! ## A history -/

namespace Outage

/-- A table with one setting. -/
def settings (key : String) : Option String :=
  if key = "rank.question.add" then some " 5 " else none

/-- The cache is asked for the setting. -/
def asked (found : Except SystemError (Option String)) : Exchange StorageOp.Answer :=
  ⟨.cache (.get (cacheKey "rank.question.add")), found⟩

/-- The table is read. -/
def read (reply : Except StorageError Outcome) : Exchange StorageOp.Answer :=
  ⟨.run (.setting "rank.question.add"), reply⟩

/-- The cache is told. -/
def told (answer : Except SystemError Unit) : Exchange StorageOp.Answer :=
  ⟨.cache (.set (cacheKey "rank.question.add") 300 (Json.int 5).toText), answer⟩

def row : Except StorageError Outcome := .ok { rows := rowsIn settings "rank.question.add" }

/-- A write that is reported to fail is found all the same; later the text in the cache is spoilt,
and at last neither the cache nor the table can be reached. -/
def history : List Lookup :=
  [⟨"rank.question.add", [asked (.ok none), read row, told (.error (.redis "timed out"))],
      .ok (some 5)⟩,
    ⟨"rank.question.add", [asked (.ok (some (Json.int 5).toText))], .ok (some 5)⟩,
    ⟨"rank.question.add", [asked (.ok (some "five")), read row, told (.ok ())], .ok (some 5)⟩,
    ⟨"rank.question.add", [asked (.error (.redis "refused")), read (.error .poolTimedOut)],
      .error (.database .poolTimedOut)⟩]

theorem isHistory_history : IsHistory 300 history := by
  have hrow : settingOf row = .ok (some 5) := rfl
  have hspoilt : cachedOf (.ok (some "five")) =
      .error (.internal "Cache deserialization error") := rfl
  have hfound : cachedOf (.ok (some (Json.int 5).toText)) = .ok (some 5) := rfl
  intro l hl
  simp only [history, List.mem_cons, List.not_mem_nil, or_false] at hl
  obtain rfl | rfl | rfl | rfl := hl
  · exact plays_setting.mpr (.stored nofun hrow)
  · exact plays_setting.mpr (.hit hfound)
  · exact plays_setting.mpr (.stored (hspoilt ▸ nofun) hrow)
  · exact plays_setting.mpr (.read nofun rfl nofun)

theorem fromTable_history : ∀ x ∈ exchanges history, FromTable settings x := by
  intro x hx
  simp only [exchanges, history, List.flatMap_cons, List.flatMap_nil, List.mem_append,
    List.mem_cons, List.not_mem_nil, or_false] at hx
  obtain (rfl | rfl | rfl) | rfl | (rfl | rfl | rfl) | (rfl | rfl) := hx <;> trivial

theorem ownEntries_history : OwnEntries [] (exchanges history) := by
  have hspoilt : decoded "five" = .error .malformed := rfl
  refine ⟨trivial, trivial, trivial, fun key n _ _ => ?_, fun key n _ h => ?_, trivial, trivial,
    trivial, trivial, trivial⟩
  · exact ⟨300, .error (.redis "timed out"), by simp [told]⟩
  · cases hspoilt.symm.trans h

end Outage

theorem lookups_faithful_outage : IsHistory 300 Outage.history ∧
    (∀ x ∈ exchanges Outage.history, FromTable Outage.settings x) ∧
    OwnEntries [] (exchanges Outage.history) ∧
    ∀ l ∈ Outage.history, Faithful Outage.settings 300 l :=
  ⟨Outage.isHistory_history, Outage.fromTable_history, Outage.ownEntries_history,
    lookups_faithful Outage.isHistory_history Outage.fromTable_history
      Outage.ownEntries_history⟩

end Forum.Storage
