import Forum.Proofs.Grammar
import Forum.Proofs.Placeholders
import Forum.Proofs.World
import Forum.Search.Service

/-!
# What a query asks for

A query has words and, if it starts with one, a criterion. Each form of criterion looks only for
objects that have what it asks for, so the statement of its filter leaves nothing out.

* `Query.number_parse`: a number criterion has a number of 64 bits;
* `SearchForm.Asks`, `Search.Keeps`: what a form asks for, and a filter that asks for the same;
* `Sql.Complete`: a filter of which every criterion is one conjunct of every selection;
* `Search.LookupFails`, `Search.NamesNobody`, `Search.Names`: what becomes of an author criterion;
* **`Keeps.complete`**: what a query asks for is complete;
* **`filterOf_keeps_all`**: a query has no filter only for the sake of its author, and otherwise
  one that keeps all it asks for.
-/

namespace Forum

open Text

namespace SearchForm

theorem keywordNumber?_eq_some {keyword : String} {withSign : Bool} {s arg words : List Char}
    (h : keywordNumber? keyword withSign s = some (arg, words)) :
    ∃ n, arg = decimal n ∧ Width.int64.read arg = some n := by
  rw [keywordNumber?_eq] at h
  obtain ⟨s', -, h⟩ := Option.bind_eq_some_iff.mp h
  unfold numberAfter? at h
  split at h
  · cases h
  · obtain ⟨_, -, h⟩ := Option.bind_eq_some_iff.mp h
    obtain ⟨n, hn, h⟩ := Option.bind_eq_some_iff.mp h
    cases h
    exact ⟨n, rfl, Width.read_decimal (Width.bounds_of_read hn)⟩

end SearchForm

theorem Query.parse_cases (text : String) :
    (Query.parse text).form = .plain ∨
      ∃ f arg words, f.split? text = some (arg, words) ∧ Query.parse text = ⟨f, arg, words⟩ := by
  have hparse : parse text = (SearchForm.criteria.findSome? fun f =>
      (f.split? text).map fun p => ⟨f, p.1, p.2⟩).getD ⟨.plain, "", Text.trimmed text⟩ := rfl
  rw [hparse]
  cases h : SearchForm.criteria.findSome? fun f =>
      (f.split? text).map fun p => (⟨f, p.1, p.2⟩ : Query) with
  | none => exact .inl rfl
  | some q =>
    obtain ⟨f, -, hf⟩ := List.exists_of_findSome?_eq_some h
    obtain ⟨⟨arg, words⟩, hsplit, rfl⟩ := Option.map_eq_some_iff.mp hf
    exact .inr ⟨f, arg, words, hsplit, rfl⟩

theorem Query.number_parse {text : String}
    (h : (parse text).form = .score ∨ (parse text).form = .answerCount) :
    ∃ n, (parse text).arg.toList = decimal n ∧ Width.int64.read (decimal n) = some n := by
  rcases parse_cases text with hplain | ⟨f, arg, words, hsplit, hparse⟩
  · rw [hplain] at h
    rcases h with h | h <;> cases h
  · rw [hparse] at h ⊢
    obtain ⟨⟨e, ws⟩, he, hargs⟩ := Option.map_eq_some_iff.mp hsplit
    cases hargs
    have hnumber : ∃ n, e = decimal n ∧ Width.int64.read e = some n := by
      rcases h with rfl | rfl
      · exact @SearchForm.keywordNumber?_eq_some "score:" true _ _ _ he
      · exact @SearchForm.keywordNumber?_eq_some "answers:" false _ _ _ he
    obtain ⟨n, rfl, hread⟩ := hnumber
    exact ⟨n, String.toList_ofList, hread⟩

/-! ## What a query asks for -/

open Sql

namespace SearchForm

/-- The kinds of objects that a form looks for. -/
def scope : SearchForm → SearchScope
  | tag | answerCount | hasAccepted | isQuestion => .question
  | accepted | isAnswer => .answer
  | author | score | quote | plain => .all

/-- What a form asks for with its argument, where an author criterion names the user of an id. -/
def Asks (named : String → Prop) : SearchForm → String → List Criterion → Prop
  | tag, arg, cs => cs = [.tag (Text.lowercase arg)]
  | author, _, cs => ∃ id, named id ∧ cs = [.user id]
  | score, arg, cs => ∃ n, decimal n = arg.toList ∧ cs = [.minScore n]
  | answerCount, arg, cs => ∃ n, decimal n = arg.toList ∧ cs = [.minAnswers n]
  | accepted, arg, cs => cs = [.accepted (arg = "yes")]
  | hasAccepted, arg, cs => cs = [.hasAccepted (arg = "yes")]
  | quote, arg, cs => cs = [.phrase arg]
  | isQuestion, _, cs | isAnswer, _, cs | plain, _, cs => cs = []

theorem Asks.condition? {named : String → Prop} {form : SearchForm} {arg : String}
    {cs : List Criterion} (h : form.Asks named arg cs) {b : Branch} (hb : b ∈ branches form.scope)
    {c : Criterion} (hc : c ∈ cs) : (c.condition? b).isSome := by
  have one {d : Criterion} (hd : (d.condition? b).isSome) (hcs : cs = [d]) :
      (c.condition? b).isSome := by
    subst hcs
    rwa [List.mem_singleton.mp hc]
  have question (hq : form.scope = .question) : b = .question := by
    rw [hq] at hb
    exact List.mem_singleton.mp hb
  have answer (ha : form.scope = .answer) : b = .answer := by
    rw [ha] at hb
    exact List.mem_singleton.mp hb
  cases form with
  | tag => exact one (by cases b <;> rfl) h
  | author =>
    obtain ⟨id, -, hcs⟩ := h
    exact one (by cases b <;> rfl) hcs
  | score =>
    obtain ⟨n, -, hcs⟩ := h
    exact one (by cases b <;> rfl) hcs
  | answerCount =>
    obtain ⟨n, -, hcs⟩ := h
    exact one (by rw [question rfl]; rfl) hcs
  | accepted => exact one (by rw [answer rfl]; rfl) h
  | hasAccepted => exact one (by rw [question rfl]; cases decide (arg = "yes") <;> rfl) h
  | quote => exact one (by cases b <;> rfl) h
  | isQuestion | isAnswer | plain =>
    cases h
    cases hc

end SearchForm

namespace Sql

/-- The statement for a filter unites selections, and every criterion is one conjunct of the clause
of each of them. Beside these there is only what is always asked for. -/
structure Complete (f : SearchFilter) : Prop where
  union : fill (Fragment.params (union f)) (Fragment.text (union f)) =
    (Filled.plain " UNION ALL ").intercalate
      ((branches f.scope).map fun b => Fragment.filled (b.select f))
  select : ∀ b ∈ branches f.scope, ∃ clause conditions,
    Fragment.filled (b.select f) = b.head f.words ++ .plain " WHERE " ++ clause ∧
      Filled.conjuncts clause = b.standing.map .plain ++ conditions ∧
      List.Forall₂ (fun c g => c.condition? b = some g) (criteria f) conditions

theorem Branch.forall₂_conditions {b : Branch} {cs : List Criterion}
    (h : ∀ c ∈ cs, (c.condition? b).isSome) :
    List.Forall₂ (fun c g => c.condition? b = some g) cs (b.conditions cs) := by
  induction cs with
  | nil => exact .nil
  | cons c cs ih =>
    obtain ⟨g, hg⟩ := Option.isSome_iff_exists.mp (h c List.mem_cons_self)
    rw [conditions_cons, hg]
    exact .cons hg (ih fun d hd => h d (List.mem_cons_of_mem _ hd))

theorem complete_of_condition? {f : SearchFilter}
    (h : ∀ b ∈ branches f.scope, ∀ c ∈ criteria f, (c.condition? b).isSome) : Complete f where
  union := by rw [Fragment.fill_text (spaced_union f), filled_union]
  select b hb := ⟨_, b.conditions (criteria f), filled_select b f, conjuncts_clause b f,
    Branch.forall₂_conditions (h b hb)⟩

end Sql

namespace Search

variable (w : World) (asker : Option String)

/-- An author criterion names a user: `me` is whoever asks. -/
def Names (name id : String) : Prop :=
  if equalAscii name "me" then asker = some id ∧ id ≠ ""
  else ∃ u, w.answer (.userByName name) = .ok (some u) ∧ u.id = id

/-- An author criterion names nobody. -/
def NamesNobody (name : String) : Prop :=
  if equalAscii name "me" then ∀ id, asker = some id → id = ""
  else w.answer (.userByName name) = .ok none

/-- The user that an author criterion names was asked for, and this failed. -/
def LookupFails (name : String) (e : ServiceError) : Prop :=
  equalAscii name "me" = false ∧ w.answer (.userByName name) = .error e

/-- A filter asks for what a query asks for. -/
structure Keeps (q : Query) (f : SearchFilter) : Prop where
  scope : f.scope = q.form.scope
  criteria : ∃ cs, q.form.Asks (Names w asker q.arg) q.arg cs ∧
    criteria f = (searchWords q.words).map .word ++ cs

variable {w asker} {q : Query} {f : SearchFilter}

theorem Keeps.complete (h : Keeps w asker q f) : Complete f := by
  obtain ⟨cs, hasks, hcriteria⟩ := h.criteria
  refine complete_of_condition? fun b hb c hc => ?_
  rw [hcriteria] at hc
  rw [h.scope] at hb
  rcases List.mem_append.mp hc with hc | hc
  · obtain ⟨t, -, rfl⟩ := List.mem_map.mp hc
    cases b <;> rfl
  · exact hasks.condition? hb hc

/-! ## The filter of a query -/

theorem result_resolveAuthor (name : String) :
    w.result (resolveAuthor name asker).run =
      if equalAscii name "me" then .ok (asker.filter (· ≠ ""))
      else (w.answer (.userByName name)).map (·.map User.id) := by
  unfold resolveAuthor
  split
  · rfl
  · rw [World.result_bind_except, World.result_call]
    cases w.answer (.userByName name) <;> rfl

theorem resolveAuthor_error {name : String} {e : ServiceError} :
    w.result (resolveAuthor name asker).run = .error e ↔ LookupFails w name e := by
  rw [result_resolveAuthor, LookupFails]
  cases equalAscii name "me" with
  | true => simp
  | false => cases w.answer (.userByName name) <;> simp [Except.map]

theorem resolveAuthor_none {name : String} :
    w.result (resolveAuthor name asker).run = .ok none ↔ NamesNobody w asker name := by
  rw [result_resolveAuthor, NamesNobody]
  cases equalAscii name "me" with
  | true => cases asker <;> simp [Option.filter]
  | false =>
    cases w.answer (.userByName name) with
    | error e => simp [Except.map]
    | ok u => cases u <;> simp [Except.map]

theorem resolveAuthor_some {name id : String} :
    w.result (resolveAuthor name asker).run = .ok (some id) ↔ Names w asker name id := by
  rw [result_resolveAuthor, Names]
  cases equalAscii name "me" with
  | true =>
    rw [if_pos rfl, if_pos rfl, Except.ok.injEq, Option.filter_eq_some_iff, decide_eq_true_eq]
  | false =>
    cases w.answer (.userByName name) with
    | error e => simp [Except.map]
    | ok u => cases u <;> simp [Except.map]

theorem result_filter?_author (h : q.form = .author) :
    w.result (filter? q asker).run = (w.result (resolveAuthor q.arg asker).run).map
      (·.map fun id => { words := searchWords q.words, userId := some id }) := by
  unfold filter?
  rw [h]
  dsimp only
  rw [World.result_bind_except]
  cases w.result (resolveAuthor q.arg asker).run <;> rfl

theorem result_bind_number {arg : String} {n : Int} (h : Width.int64.read arg.toList = some n)
    (filter : Int → SearchFilter) :
    w.result (number arg >>= fun n => pure (some (filter n))).run = .ok (some (filter n)) := by
  have hnumber : w.result (number arg).run = .ok n := by
    unfold number
    rw [h]
    rfl
  rw [World.result_bind_except, hnumber]
  rfl

theorem exists_filter (h : q.form ≠ .author)
    (hnumber : q.form = .score ∨ q.form = .answerCount →
      ∃ n, q.arg.toList = decimal n ∧ Width.int64.read (decimal n) = some n) :
    ∃ f, w.result (filter? q asker).run = .ok (some f) ∧ Keeps w asker q f := by
  obtain ⟨form, arg, words⟩ := q
  cases form with
  | author => exact absurd rfl h
  | score =>
    obtain ⟨n, harg, hread⟩ := hnumber (.inl rfl)
    have hresult := result_bind_number (w := w) (harg ▸ hread) fun n =>
      { words := searchWords words, minScore := some n }
    exact ⟨_, hresult, rfl, _, ⟨n, harg.symm, rfl⟩, by simp [criteria]⟩
  | answerCount =>
    obtain ⟨n, harg, hread⟩ := hnumber (.inr rfl)
    have hresult := result_bind_number (w := w) (harg ▸ hread) fun n =>
      { scope := .question, words := searchWords words, minAnswers := some n }
    exact ⟨_, hresult, rfl, _, ⟨n, harg.symm, rfl⟩, by simp [criteria]⟩
  | _ => exact ⟨_, rfl, rfl, _, rfl, by simp [criteria]⟩

/-- The filter of a text. -/
def filterOf (w : World) (text : String) (asker : Option String) :
    Except ServiceError (Option SearchFilter) :=
  w.result (filter? (Query.parse text) asker).run

variable {text : String}

/-- Only a query that names an author can be without a filter. -/
theorem exists_filterOf (w : World) (asker : Option String)
    (h : (Query.parse text).form ≠ .author) :
    ∃ f, filterOf w text asker = .ok (some f) ∧ Keeps w asker (Query.parse text) f :=
  exists_filter h Query.number_parse

theorem filterOf_error {e : ServiceError} : filterOf w text asker = .error e ↔
    (Query.parse text).form = .author ∧ LookupFails w (Query.parse text).arg e := by
  by_cases h : (Query.parse text).form = .author
  · rw [filterOf, result_filter?_author h, ← @resolveAuthor_error w asker]
    cases w.result (resolveAuthor (Query.parse text).arg asker).run <;> simp [Except.map, h]
  · obtain ⟨f, hf, -⟩ := exists_filterOf w asker h
    simp [hf, h]

theorem filterOf_none : filterOf w text asker = .ok none ↔
    (Query.parse text).form = .author ∧ NamesNobody w asker (Query.parse text).arg := by
  by_cases h : (Query.parse text).form = .author
  · rw [filterOf, result_filter?_author h, ← resolveAuthor_none]
    cases hresolved : w.result (resolveAuthor (Query.parse text).arg asker).run with
    | error e => simp [Except.map]
    | ok id => simp [Except.map, h]
  · obtain ⟨f, hf, -⟩ := exists_filterOf w asker h
    simp [hf, h]

theorem keeps_author (h : q.form = .author) (hf : w.result (filter? q asker).run = .ok (some f)) :
    Keeps w asker q f := by
  rw [result_filter?_author h] at hf
  cases hresolved : w.result (resolveAuthor q.arg asker).run with
  | error e =>
    rw [hresolved] at hf
    cases hf
  | ok found =>
    rw [hresolved] at hf
    cases found with
    | none => cases hf
    | some id =>
      cases hf
      have hnames : Names w asker q.arg id := resolveAuthor_some.mp hresolved
      refine ⟨by rw [h]; rfl, [.user id], ?_, by simp [criteria]⟩
      rw [h]
      exact ⟨id, hnames, rfl⟩

theorem keeps_filterOf (hf : filterOf w text asker = .ok (some f)) :
    Keeps w asker (Query.parse text) f := by
  by_cases h : (Query.parse text).form = .author
  · exact keeps_author h hf
  · obtain ⟨g, hg, hkeeps⟩ := exists_filterOf w asker h
    rw [hg] at hf
    cases hf
    exact hkeeps

theorem asked_resolveAuthor (name : String) :
    w.asked (resolveAuthor name asker).run =
      if equalAscii name "me" then [] else [.call (.userByName name)] := by
  unfold resolveAuthor
  split
  · rfl
  · rw [World.asked_bind_except, World.asked_call, World.result_call]
    cases w.answer (.userByName name) <;> rfl

theorem asked_number (arg : String) : w.asked (number arg).run = [] := by
  unfold number
  cases Width.int64.read arg.toList <;> rfl

theorem asked_filter? (q : Query) :
    w.asked (filter? q asker).run =
      if q.form = .author ∧ equalAscii q.arg "me" = false then [.call (.userByName q.arg)]
      else [] := by
  obtain ⟨form, arg, words⟩ := q
  cases form with
  | author =>
    have hasked : w.asked (filter? ⟨.author, arg, words⟩ asker).run =
        w.asked (resolveAuthor arg asker).run := w.asked_bind_pure_except _ _
    rw [hasked, asked_resolveAuthor]
    cases equalAscii arg "me" <;> simp
  | score => exact (w.asked_bind_pure_except _ _).trans (asked_number arg)
  | answerCount => exact (w.asked_bind_pure_except _ _).trans (asked_number arg)
  | _ => rfl

theorem asked_of_error {e : ServiceError} (h : filterOf w text asker = .error e) :
    .call (.userByName (Query.parse text).arg) ∈
      w.asked (filter? (Query.parse text) asker).run := by
  obtain ⟨hform, hme, -⟩ := filterOf_error.mp h
  rw [asked_filter?, if_pos ⟨hform, hme⟩]
  exact List.mem_singleton.mpr rfl

theorem not_search_of_none (h : filterOf w text asker = .ok none) {r : SearchRequest}
    (hr : r.q = text) (f : SearchFilter) (page size : Int) (order : SearchOrder) :
    .call (.search f page size order) ∉ w.asked (search r asker).run := by
  subst hr
  unfold search
  cases r.fault? with
  | some detail => exact List.not_mem_nil
  | none =>
    dsimp only
    rw [World.asked_bind_except, show w.result (filter? (Query.parse r.q) asker).run = .ok none
      from h, asked_filter?]
    split <;> simp

/-- **No criterion of a query is ignored.** It fails only with a look-up of its author, and can
match nothing only if its author is nobody: then nothing is searched. Otherwise each of its words
and its criterion is one conjunct wherever the search looks. -/
theorem filterOf_keeps_all (text : String) (asker : Option String) (w : World) :
    (∀ e, filterOf w text asker = .error e ↔
      (Query.parse text).form = .author ∧ LookupFails w (Query.parse text).arg e) ∧
    (∀ e, filterOf w text asker = .error e → .call (.userByName (Query.parse text).arg) ∈
      w.asked (filter? (Query.parse text) asker).run) ∧
    (filterOf w text asker = .ok none ↔
      (Query.parse text).form = .author ∧ NamesNobody w asker (Query.parse text).arg) ∧
    (filterOf w text asker = .ok none → ∀ r : SearchRequest, r.q = text →
      ∀ f page size order, .call (.search f page size order) ∉ w.asked (search r asker).run) ∧
    (∀ f, filterOf w text asker = .ok (some f) →
      Keeps w asker (Query.parse text) f ∧ Complete f) := by
  refine ⟨fun e => filterOf_error, fun e h => asked_of_error h, filterOf_none, ?_, ?_⟩
  · intro h r hr f page size order
    exact not_search_of_none h hr f page size order
  · intro f hf
    have hkeeps := keeps_filterOf hf
    exact ⟨hkeeps, hkeeps.complete⟩

end Search

end Forum
