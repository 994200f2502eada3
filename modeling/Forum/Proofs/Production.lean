import Forum.Proofs.Layers

/-!
# The secret of tokens in production

In production the default secret is a fault. Production is what the setting `environment` says, and
the variable `ANSWER_ENV` is only its lowest layer.

* `Config.given?`: what the files and the variables make of a setting;
* `fault?_eq_none`: when a configuration has no fault;
* **`environment_of_load`**: the environment is the one given last, or else the named one;
* **`secret_guarded_iff`**: when a configuration without fault has a secret of its own, although
  `ANSWER_ENV` names production.
-/

namespace Forum.Config

variable {service : String} {files env : List (String × String)} {c : Config}

/-- What the files and the variables make of a setting: the last of them to name it, with the path
inside the setting. -/
def given? (name service : String) (files env : List (String × String)) :
    Option (List Tree.Step × Tree) :=
  (layers? service files env).bind fun layers => Tree.last? name layers.tail

theorem fault?_eq_none :
    c.fault? = none ↔
      (c.environment = "production" → c.auth.secret ≠ defaultSecret) ∧ c.queue.capacity ≠ 0 := by
  unfold fault? isProduction
  by_cases hp : c.environment = "production" ∧ c.auth.secret = defaultSecret
  · simp [hp]
  · by_cases hq : c.queue.capacity = 0
    · simp [hq, hp]
    · simp only [decide_eq_true_eq, hp, if_false, hq, true_iff, ne_eq, not_false_eq_true, and_true]
      exact not_and.mp hp

/-- The lowest layer: the names of the service and of its environment. -/
def names (service : String) (env : List (String × String)) : List (String × Tree) :=
  [("service_name", .text service), ("environment", .text (environmentName env))]

theorem layers?_eq_some {layers : List (List (String × Tree))}
    (h : layers? service files env = some layers) :
    layers = names service env :: layers.tail := by
  unfold layers? at h
  simp only [Option.bind_eq_bind, Option.bind_eq_some_iff, Option.pure_def, Option.some.injEq] at h
  obtain ⟨_, -, _, -, _, -, rfl⟩ := h
  rfl

theorem lookup_names (service : String) (env : List (String × String)) :
    (Tree.addLayer (.table []) (names service env)).members.lookup "environment" =
      some (.text (environmentName env)) := by
  have path : Tree.pathOf "environment" = [.member "environment"] := by decide
  rw [names, Tree.addLayer, List.foldl_cons, List.foldl_cons, List.foldl_nil, Tree.lookup_setKey,
    Tree.under?, path]
  rfl

theorem environment_of_ofTree? {ms : List (String × Tree)} (h : ofTree? (.table ms) = some c)
    {t : Tree} (ht : ms.lookup "environment" = some t) : t.asText? = some c.environment := by
  unfold ofTree? at h
  simp only [Tree.members?, Option.bind_eq_bind, Option.bind_some, Option.bind_eq_some_iff,
    Option.pure_def, Option.some.injEq] at h
  obtain ⟨_, -, e, he, _, -, _, -, _, -, _, -, _, -, _, -, rfl⟩ := h
  rw [Tree.member?, ht] at he
  exact he

/-- **The environment** is the text given last, by a file or a variable, or else the one that
`ANSWER_ENV` names. -/
theorem environment_of_load (h : load service files env = some c) :
    (given? "environment" service files env = none ∧ c.environment = environmentName env) ∨
      ∃ v, given? "environment" service files env = some ([], v) ∧
        v.asText? = some c.environment := by
  unfold load at h
  simp only [Option.bind_eq_bind, Option.bind_eq_some_iff] at h
  obtain ⟨layers, hl, read, hr, hc⟩ := h
  -- the port that is set after all layers is no part of this
  have hsame : c.environment = read.environment := by
    cases hp : portOverride? env <;> simp only [hp, Option.pure_def, Option.some.injEq] at hc <;>
      rw [← hc]
  have hgiven : given? "environment" service files env = Tree.last? "environment" layers.tail := by
    rw [given?, hl, Option.bind_some]
  rw [layers?_eq_some hl, List.foldl_cons] at hr
  obtain ⟨lowest, hlow⟩ := Tree.addLayer_eq_table [] (names service env)
  obtain ⟨ms, hms⟩ := Tree.addLayer_eq_table lowest layers.tail.flatten
  have hroot : layers.tail.foldl Tree.addLayer (Tree.addLayer (.table []) (names service env)) =
      .table ms := by rw [Tree.addLayers_eq, hlow, hms]
  have hlast := Tree.lookup_addLayers "environment"
    (Tree.addLayer (.table []) (names service env)) layers.tail
  rw [hroot] at hr hlast
  rw [hsame, hgiven]
  cases hgot : Tree.last? "environment" layers.tail with
  | none =>
    rw [hgot, lookup_names] at hlast
    exact .inl ⟨rfl, (Option.some.inj (environment_of_ofTree? hr hlast)).symm⟩
  | some found =>
    obtain ⟨path, v⟩ := found
    rw [hgot] at hlast
    obtain ⟨old, ho⟩ := hlast
    have ht := environment_of_ofTree? hr ho
    rw [Tree.asText?_setAt] at ht
    split at ht
    · next hp => exact .inr ⟨v, by rw [hp], ht⟩
    · cases ht

/-- **The guard of the secret.** `ANSWER_ENV` names production. Then a configuration without fault
has a secret of its own exactly if the environment given by files and variables, if one is given, is
production too; only what has a secret of its own or no room for events needs no such condition. -/
theorem secret_guarded_iff (he : env.lookup "ANSWER_ENV" = some "production")
    (h : load service files env = some c) :
    (c.fault? = none → c.auth.secret ≠ defaultSecret) ↔
      (c.auth.secret = defaultSecret → c.queue.capacity ≠ 0 →
        ∀ path v, given? "environment" service files env = some (path, v) →
          v.asText? = some "production") := by
  have hname : environmentName env = "production" := by rw [environmentName, he, Option.getD_some]
  have henv : c.environment = "production" ↔ ∀ path v,
      given? "environment" service files env = some (path, v) → v.asText? = some "production" := by
    rcases environment_of_load h with ⟨hn, hc⟩ | ⟨v, hv, ht⟩
    · simp [hn, hc, hname]
    · simp [hv, ht]
  rw [fault?_eq_none, ← henv]
  tauto

/-- With no file at all the guard holds: the default secret is a fault. -/
theorem secret_guarded_without_files :
    let env := [("ANSWER_ENV", "production")]
    let c : Config := { serviceName := "answer-server", environment := "production" }
    load "answer-server" [] env = some c ∧
      ((c.fault? = none → c.auth.secret ≠ defaultSecret) ↔
        (c.auth.secret = defaultSecret → c.queue.capacity ≠ 0 →
          ∀ path v, given? "environment" "answer-server" [] env = some (path, v) →
            v.asText? = some "production")) := by
  intro env c
  have h : load "answer-server" [] env = some c := by decide +kernel
  exact ⟨h, secret_guarded_iff rfl h⟩

/-- A file for all that names the environment of development lets the default secret pass. -/
theorem secret_unguarded_by_file :
    let env := [("ANSWER_ENV", "production")]
    let files := [("default.toml", "environment = \"development\"")]
    env.lookup "ANSWER_ENV" = some "production" ∧
      ∃ c, load "answer-server" files env = some c ∧ c.fault? = none ∧
        c.auth.secret = defaultSecret := by
  intro env files
  have h : (load "answer-server" files env).any
      (fun c => decide (c.fault? = none ∧ c.auth.secret = defaultSecret)) = true := by
    decide +kernel
  obtain ⟨c, hc, hd⟩ := (Option.any_eq_true _ _).mp h
  exact ⟨rfl, c, hc, of_decide_eq_true hd⟩

end Forum.Config
