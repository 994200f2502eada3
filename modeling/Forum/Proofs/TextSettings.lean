import Forum.Proofs.PlainTexts
import Forum.Proofs.Production

/-!
# Texts from variables

The value of a variable is guessed to be a truth value, an integer or a number where it spells one,
and a setting that is a text has the text which is printed for that. So the text is kept where it
spells nothing of the kind, and where it is what is printed.

* `Tree.at?`, `Tree.apart`: the value at a path of names, and paths that set another one;
* `Tree.at?_setAt`, `Tree.at?_addLayer_of_apart`: one setting, and a layer of other settings;
* `SpellsNothing`, `IsPrinted`: the texts that are kept;
* **`asText?_variableValue_iff`**: a value is printed as its text;
* `TextSetting`: the settings that are texts;
* **`TextSetting.asText?_of_load`**: a setting is the printed value of its variable;
* **`TextSetting.kept_iff`**: when a setting is the text of its variable.
-/

namespace Forum.Config

open Text

/-! ## The value at a path -/

namespace Tree

variable {path : List Step} {v root : Tree} {old : Option Tree}

/-- The value at a path of names. -/
def at? : List String → Tree → Option Tree
  | [], t => some t
  | n :: names, t => (t.members.lookup n).bind (at? names)

/-- Does a path leave the value at a path of names alone? It does if it names another member on the
way. -/
def apart : List Step → List String → Bool
  | .member m :: path, n :: names => m ≠ n || apart path names
  | _, _ => false

theorem bind_at?_cons (old : Option Tree) (n : String) (names : List String) :
    old.bind (at? (n :: names)) = (((old.map members).getD []).lookup n).bind (at? names) := by
  cases old <;> rfl

theorem at?_setAt (names : List String) (v : Tree) (old : Option Tree) :
    at? names (setAt v (names.map .member) old) = some (overlay (old.bind (at? names)) v) := by
  induction names generalizing old with
  | nil => cases old <;> rfl
  | cons n names ih =>
    rw [bind_at?_cons, ← ih]
    simp only [List.map_cons, setAt, at?, members, lookup_put, if_true, Option.bind_some]

/-- Other values are as they were. -/
theorem at?_setAt_of_apart {names : List String} (h : apart path names = true) :
    at? names (setAt v path old) = old.bind (at? names) := by
  induction path generalizing names old with
  | nil => cases h
  | cons step path ih =>
    cases step with
    | item i => cases h
    | member m =>
      cases names with
      | nil => cases h
      | cons n names =>
        rw [apart, Bool.or_eq_true, decide_eq_true_eq] at h
        rw [bind_at?_cons]
        simp only [setAt, at?, members, lookup_put]
        by_cases hm : m = n
        · rw [if_pos hm, Option.bind_some, ih (h.resolve_left (not_not.mpr hm)), hm]
        · rw [if_neg hm]

theorem at?_addLayer_of_apart {names : List String} {layer : List (String × Tree)}
    (h : ∀ e ∈ layer, apart (pathOf e.1) names = true) :
    at? names (addLayer root layer) = at? names root := by
  induction layer generalizing root with
  | nil => rfl
  | cons e layer ih =>
    have hrest : at? names (addLayer (root.setKey e.1 e.2) layer) =
        at? names (root.setKey e.1 e.2) := ih fun e' he' => h e' (List.mem_cons_of_mem e he')
    exact hrest.trans (at?_setAt_of_apart (h e List.mem_cons_self))

end Tree

/-! ## Values and their texts -/

/-- A text that spells no truth value, no integer and no number. -/
def SpellsNothing (s : String) : Prop :=
  equalAscii s "true" = false ∧ equalAscii s "false" = false ∧
    Width.int64.read s.toList = none ∧ Binary64.read s.toList = none

instance (s : String) : Decidable (SpellsNothing s) := by unfold SpellsNothing; infer_instance

/-- What is printed for a truth value, an integer or a number. The zero below zero is printed as a
number but spells an integer. -/
inductive IsPrinted : String → Prop
  | bool (b : Bool) : IsPrinted (if b then "true" else "false")
  | int {n : Int} (h : Width.int64.lo ≤ n ∧ n ≤ Width.int64.hi) : IsPrinted n.repr
  | float {x : Binary64} (h : x.IsCanonical) (hx : x ≠ .zero true) :
    IsPrinted (String.ofList x.plain)

/-- The words of truth values start with no sign, no digit and no name of a number. -/
theorem not_word {s : String} {c : Char} {t : List Char} (hs : s.toList = c :: t)
    (hc : c ∈ ['-', 'i', 'N'] ∨ c.isDigit = true) :
    equalAscii s "true" = false ∧ equalAscii s "false" = false := by
  have hother : lowerAscii c ≠ 't' ∧ lowerAscii c ≠ 'f' := by
    rcases hc with hc | hc
    · have hall : (['-', 'i', 'N'].all fun d => lowerAscii d ≠ 't' ∧ lowerAscii d ≠ 'f') = true :=
        rfl
      exact of_decide_eq_true (List.all_eq_true.mp hall c hc)
    · rw [lowerAscii_of_isDigit hc]
      constructor <;> rintro rfl <;> exact absurd hc (by decide)
  have htrue : "true".toList.map lowerAscii = ['t', 'r', 'u', 'e'] := by decide
  have hfalse : "false".toList.map lowerAscii = ['f', 'a', 'l', 's', 'e'] := by decide
  rw [equalAscii, equalAscii, hs, List.map_cons, htrue, hfalse, List.cons_beq_cons,
    List.cons_beq_cons, beq_false_of_ne hother.1, beq_false_of_ne hother.2]
  exact ⟨rfl, rfl⟩

variable {s : String}

theorem variableValue_of_int {n : Int}
    (h : equalAscii s "true" = false ∧ equalAscii s "false" = false)
    (hn : Width.int64.read s.toList = some n) : variableValue s = .int n := by
  simp [variableValue, h, hn]

theorem variableValue_of_number {x : Binary64}
    (h : equalAscii s "true" = false ∧ equalAscii s "false" = false)
    (hn : Width.int64.read s.toList = none) (hx : Binary64.read s.toList = some x) :
    variableValue s = .float x := by
  simp [variableValue, h, hn, hx]

theorem variableValue_of_spellsNothing (h : SpellsNothing s) : variableValue s = .text s := by
  obtain ⟨htrue, hfalse, hint, hnumber⟩ := h
  simp [variableValue, htrue, hfalse, hint, hnumber]

theorem asText?_of_isPrinted (h : IsPrinted s) : (variableValue s).asText? = some s := by
  cases h with
  | bool b => cases b <;> decide
  | @int n hn =>
    obtain ⟨c, t, htext, hc⟩ := decimal_cons n
    have hstart : c ∈ ['-', 'i', 'N'] ∨ c.isDigit = true := hc.imp_left fun h => by simp [h]
    rw [variableValue_of_int (not_word htext hstart) (Width.read_decimal hn)]
    rfl
  | @float x hx hzero =>
    have hlist : (String.ofList x.plain).toList = x.plain := String.toList_ofList
    obtain ⟨c, t, htext, hc⟩ := Binary64.plain_cons hx
    have hword := not_word (hlist.trans htext) hc
    cases hn : Width.int64.read x.plain with
    | some n =>
      have hsame : n.repr = String.ofList x.plain := by
        rw [← Binary64.decimal_of_read_plain hx hzero hn, decimal, String.ofList_toList]
      rw [variableValue_of_int hword (by rwa [hlist]), Tree.asText?, hsame]
    | none =>
      have hread : Binary64.read (String.ofList x.plain).toList = some x := by
        rw [hlist, Binary64.read_plain hx]
      rw [variableValue_of_number hword (by rwa [hlist]) hread]
      rfl

/-- **A value is printed as its text** exactly if the text spells nothing, or is what is printed. -/
theorem asText?_variableValue_iff (s : String) :
    (variableValue s).asText? = some s ↔ SpellsNothing s ∨ IsPrinted s := by
  constructor
  · intro h
    unfold variableValue at h
    split_ifs at h with htrue hfalse
    · exact .inr (Option.some.inj h ▸ IsPrinted.bool true)
    · exact .inr (Option.some.inj h ▸ IsPrinted.bool false)
    · split at h
      · next n _ hn => exact .inr (Option.some.inj h ▸ IsPrinted.int (Width.bounds_of_read hn))
      · next x hn hx =>
        have htext : String.ofList x.plain = s := Option.some.inj h
        have hzero : x ≠ .zero true := by
          rintro rfl
          rw [← htext] at hn
          exact absurd hn (by decide)
        exact .inr (htext ▸ IsPrinted.float (Binary64.isCanonical_of_read hx) hzero)
      · next hn hx =>
        exact .inl ⟨Bool.eq_false_of_not_eq_true htrue, Bool.eq_false_of_not_eq_true hfalse, hn, hx⟩
  · rintro (h | h)
    · rw [variableValue_of_spellsNothing h]
      rfl
    · exact asText?_of_isPrinted h

/-! ## Settings that are texts -/

theorem variableValue_ne_table (s : String) (ms : List (String × Tree)) :
    variableValue s ≠ .table ms := by
  intro h
  unfold variableValue at h
  split_ifs at h
  split at h <;> cases h

theorem Tree.overlay_variableValue (old : Option Tree) (s : String) :
    overlay old (variableValue s) = variableValue s := by
  cases h : variableValue s with
  | table ms => exact absurd h (variableValue_ne_table s ms)
  | _ => rfl

theorem Tree.eq_table_of_lookup {t v : Tree} {name : String}
    (h : t.members.lookup name = some v) : ∃ ms, t = .table ms ∧ ms.lookup name = some v := by
  cases t with
  | table ms => exact ⟨ms, rfl, h⟩
  | _ => cases h

theorem Tree.tables_of_at? {root v : Tree} {part name : String}
    (h : at? [part, name] root = some v) : ∃ ms ms', root = .table ms ∧
      ms.lookup part = some (.table ms') ∧ ms'.lookup name = some v := by
  obtain ⟨t, hpart, h⟩ := Option.bind_eq_some_iff.mp h
  obtain ⟨u, hname, hu⟩ := Option.bind_eq_some_iff.mp h
  obtain ⟨ms, rfl, hpart⟩ := eq_table_of_lookup hpart
  obtain ⟨ms', rfl, hname⟩ := eq_table_of_lookup hname
  exact ⟨ms, ms', rfl, hpart, hname.trans hu⟩

section Parts

variable {ms : List (String × Tree)} {t : Tree}

theorem Auth.texts_of_ofTree? {a : Auth} (h : ofTree? (.table ms) = some a) :
    (ms.lookup "jwt_secret" = some t → t.asText? = some a.secret) ∧
      (ms.lookup "jwt_issuer" = some t → t.asText? = some a.issuer) := by
  simp only [ofTree?, Tree.members?, Option.bind_eq_bind, Option.bind_some,
    Option.bind_eq_some_iff, Option.pure_def, Option.some.injEq] at h
  obtain ⟨_, hsecret, _, hissuer, _, -, rfl⟩ := h
  constructor
  · intro ht
    rwa [Tree.member?, ht] at hsecret
  · intro ht
    rwa [Tree.member?, ht] at hissuer

theorem Database.url_of_ofTree? {d : Database} (h : ofTree? (.table ms) = some d)
    (ht : ms.lookup "url" = some t) : t.asText? = some d.url := by
  simp only [ofTree?, Tree.members?, Option.bind_eq_bind, Option.bind_some,
    Option.bind_eq_some_iff, Option.pure_def, Option.some.injEq] at h
  obtain ⟨_, hurl, _, -, _, -, _, -, _, -, rfl⟩ := h
  rwa [Tree.member?, ht] at hurl

theorem parts_of_ofTree? {c : Config} (h : ofTree? (.table ms) = some c) :
    (ms.lookup "auth" = some t → Auth.ofTree? t = some c.auth) ∧
      (ms.lookup "database" = some t → Database.ofTree? t = some c.database) := by
  unfold ofTree? at h
  simp only [Tree.members?, Option.bind_eq_bind, Option.bind_some, Option.bind_eq_some_iff,
    Option.pure_def, Option.some.injEq] at h
  obtain ⟨_, -, _, -, _, -, _, hdatabase, _, -, _, -, _, hauth, _, -, rfl⟩ := h
  constructor
  · intro ht
    rwa [Tree.member?, ht] at hauth
  · intro ht
    rwa [Tree.member?, ht] at hdatabase

end Parts

end Forum.Config

namespace Forum

/-- A setting that is a text and has a variable of its own. -/
inductive TextSetting where
  | secret
  | issuer
  | databaseUrl
deriving DecidableEq, Repr

namespace TextSetting

open Config

/-- The variable of the environment. -/
def variableName : TextSetting → String
  | secret => "ANSWER_AUTH__JWT_SECRET"
  | issuer => "ANSWER_AUTH__JWT_ISSUER"
  | databaseUrl => "ANSWER_DATABASE__URL"

/-- The names on the path of the setting. -/
def path : TextSetting → List String
  | secret => ["auth", "jwt_secret"]
  | issuer => ["auth", "jwt_issuer"]
  | databaseUrl => ["database", "url"]

/-- The setting in a configuration. -/
def value (c : Config) : TextSetting → String
  | secret => c.auth.secret
  | issuer => c.auth.issuer
  | databaseUrl => c.database.url

/-- No variable of these sets the setting, or anything that it is part of. -/
def LeftAlone (x : TextSetting) (env : List (String × String)) : Prop :=
  ∀ e ∈ ofVariables env, Tree.apart (Tree.pathOf e.1) x.path = true

instance (x : TextSetting) (env : List (String × String)) : Decidable (x.LeftAlone env) := by
  unfold LeftAlone
  infer_instance

variable {service s : String} {files before after : List (String × String)} {c : Config}

theorem variableKey?_eq (x : TextSetting) :
    ∃ key, variableKey? x.variableName = some key ∧ Tree.pathOf key = x.path.map .member := by
  cases x with
  | secret => exact ⟨"auth.jwt_secret", by decide +kernel, by decide +kernel⟩
  | issuer => exact ⟨"auth.jwt_issuer", by decide +kernel, by decide +kernel⟩
  | databaseUrl => exact ⟨"database.url", by decide +kernel, by decide +kernel⟩

theorem asText?_of_ofTree? (x : TextSetting) {root v : Tree} (h : ofTree? root = some c)
    (hv : Tree.at? x.path root = some v) : v.asText? = some (x.value c) := by
  cases x with
  | secret =>
    obtain ⟨ms, ms', rfl, hpart, hname⟩ := Tree.tables_of_at? hv
    exact (Auth.texts_of_ofTree? ((parts_of_ofTree? h).1 hpart)).1 hname
  | issuer =>
    obtain ⟨ms, ms', rfl, hpart, hname⟩ := Tree.tables_of_at? hv
    exact (Auth.texts_of_ofTree? ((parts_of_ofTree? h).1 hpart)).2 hname
  | databaseUrl =>
    obtain ⟨ms, ms', rfl, hpart, hname⟩ := Tree.tables_of_at? hv
    exact Database.url_of_ofTree? ((parts_of_ofTree? h).2 hpart) hname

theorem at?_layers (x : TextSetting) {layers : List (List (String × Tree))}
    (hlast : x.LeftAlone after)
    (h : layers? service files (before ++ (x.variableName, s) :: after) = some layers) :
    Tree.at? x.path (layers.foldl Tree.addLayer (.table [])) = some (variableValue s) := by
  obtain ⟨key, hkey, hpath⟩ := x.variableKey?_eq
  have henv : ofVariables (before ++ (x.variableName, s) :: after) =
      ofVariables before ++ (key, variableValue s) :: ofVariables after := by
    simp [ofVariables, hkey]
  unfold layers? at h
  simp only [Option.bind_eq_bind, Option.bind_eq_some_iff, Option.pure_def, Option.some.injEq] at h
  obtain ⟨_, -, _, -, _, -, rfl⟩ := h
  -- the variables come after all files, and the later ones leave the path alone
  rw [henv]
  simp only [List.foldl_cons, List.foldl_nil, Tree.addLayer, List.foldl_append]
  generalize List.foldl _ _ (ofVariables before) = root
  have hkept : Tree.at? x.path (Tree.addLayer (root.setKey key (variableValue s))
      (ofVariables after)) = Tree.at? x.path (root.setKey key (variableValue s)) :=
    Tree.at?_addLayer_of_apart hlast
  refine hkept.trans ?_
  rw [Tree.setKey, hpath, Tree.at?_setAt, Tree.overlay_variableValue]

/-- **A setting is the printed value of its variable**, if no later variable sets it. -/
theorem asText?_of_load (x : TextSetting) (hlast : x.LeftAlone after)
    (h : load service files (before ++ (x.variableName, s) :: after) = some c) :
    (variableValue s).asText? = some (x.value c) := by
  unfold load at h
  simp only [Option.bind_eq_bind, Option.bind_eq_some_iff] at h
  obtain ⟨layers, hlayers, read, hread, hc⟩ := h
  -- the port that is set after all layers is no part of this
  have hsame : x.value c = x.value read := by
    split at hc <;> cases Option.some.inj hc <;> cases x <;> rfl
  rw [hsame]
  exact x.asText?_of_ofTree? hread (x.at?_layers hlast hlayers)

/-- **A setting is the text of its variable** exactly if the text spells no truth value, integer or
number, or is what is printed for one. This is whatever the files say, for each of the settings that
are texts; only no later variable is to set the same. -/
theorem kept_iff (x : TextSetting) (hlast : x.LeftAlone after)
    (h : load service files (before ++ (x.variableName, s) :: after) = some c) :
    x.value c = s ↔ SpellsNothing s ∨ IsPrinted s := by
  rw [← asText?_variableValue_iff, asText?_of_load x hlast h, Option.some.injEq]

/-- A secret that spells nothing is kept, next to an issuer that is a number as it is printed. -/
theorem kept_iff_secret :
    let after := [("ANSWER_AUTH__JWT_ISSUER", "7")]
    let c : Config :=
      { serviceName := "answer-server", environment := "development"
        auth := { secret := "s3cret", issuer := "7" } }
    secret.LeftAlone after ∧
      load "answer-server" [] ([] ++ (secret.variableName, "s3cret") :: after) = some c ∧
      (secret.value c = "s3cret" ↔ SpellsNothing "s3cret" ∨ IsPrinted "s3cret") := by
  intro after c
  have hlast : secret.LeftAlone after := by decide +kernel
  have h : load "answer-server" [] ([] ++ (secret.variableName, "s3cret") :: after) = some c := by
    decide +kernel
  exact ⟨hlast, h, kept_iff secret hlast h⟩

/-- A secret of digits loses the zeros in front. -/
theorem not_kept_zeros :
    ∃ c, load "answer-server" [] [(secret.variableName, "007")] = some c ∧
      secret.value c = "7" ∧ secret.value c ≠ "007" := by
  have h : (load "answer-server" [] [(secret.variableName, "007")]).any
      (fun c => decide (secret.value c = "7")) = true := by
    decide +kernel
  obtain ⟨c, hc, hd⟩ := (Option.any_eq_true _ _).mp h
  have hvalue : secret.value c = "7" := of_decide_eq_true hd
  exact ⟨c, hc, hvalue, by rw [hvalue]; decide⟩

end TextSetting

end Forum
