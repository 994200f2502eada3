import Forum.Proofs.Grammar

/-!
# One criterion at most

The criteria of a query are tried in an order, but the order does not matter: each criterion has a
mark with which its queries start in small letters, and no mark is the start of another.

* `SearchForm.mark`, `mark_starts`: how a query with a criterion starts;
* **`eq_of_split?`**: a query has at most one criterion;
* `Query.parseIn`: the query of a text, with the criteria tried in some order;
* **`parse_any_order`**: every order leads to the same query, which has no criterion only if the
  text has none.
-/

namespace Forum

open Text

namespace SearchForm

/-! ## Marks -/

/-- How the queries of a form start, with their letters folded. -/
def mark : SearchForm → String
  | tag => "["
  | author => "user:"
  | score => "score:"
  | answerCount => "answers:"
  | accepted => "isaccepted:"
  | hasAccepted => "hasaccepted:"
  | isQuestion => "is:question"
  | isAnswer => "is:answer"
  | quote => "\""
  | plain => ""

variable {f g : SearchForm} {q : String} {t arg words : List Char}

theorem keyword_starts {keyword : String} {spelt rest : List Char} (h : IsKeyword keyword)
    (hspelt : Spells keyword spelt) : keyword.toList <+: (spelt ++ rest).map fold := by
  rw [List.map_append, (spells_iff h).mp hspelt]
  exact List.prefix_append _ _

theorem ReadsValue.starts_singleton {keyword v : String} (hkeyword : IsKeyword keyword)
    (hv : IsKeyword v) (h : ReadsValue keyword [v] t arg words) :
    (keyword ++ v).toList <+: t.map fold := by
  obtain ⟨spelt, value, tail, rfl, hspelt, ⟨v', hv', hvalue⟩, -, -⟩ := h
  rw [List.mem_singleton.mp hv'] at hvalue
  rw [List.map_append, (spells_iff hkeyword).mp hspelt, String.toList_append]
  exact (List.prefix_append_right_inj _).mpr (keyword_starts hv hvalue)

theorem mark_starts (h : f.Reads t arg words) : f.mark.toList <+: t.map fold := by
  cases f with
  | tag | quote =>
    obtain ⟨tail, rfl, -⟩ := h
    exact ⟨_, rfl⟩
  | author =>
    obtain ⟨spelt, tail, rfl, hspelt, -⟩ := h
    exact keyword_starts (by decide) hspelt
  | score | answerCount =>
    obtain ⟨spelt, sign, digits, tail, n, rfl, hspelt, -⟩ := h
    exact keyword_starts (by decide) hspelt
  | accepted | hasAccepted =>
    obtain ⟨spelt, value, tail, rfl, hspelt, -⟩ := h
    exact keyword_starts (by decide) hspelt
  | isQuestion => exact ReadsValue.starts_singleton (by decide) (by decide) h
  | isAnswer => exact ReadsValue.starts_singleton (by decide) (by decide) h
  | plain => exact List.nil_prefix

/-- No mark is the start of another. -/
theorem eq_of_mark_starts : ∀ f ∈ criteria, ∀ g ∈ criteria,
    f.mark.toList <+: g.mark.toList → f = g := by
  decide

/-- **A query has at most one criterion.** -/
theorem eq_of_split? (hf : f ∈ criteria) (hg : g ∈ criteria) (hfq : (f.split? q).isSome)
    (hgq : (g.split? q).isSome) : f = g := by
  obtain ⟨⟨arg, words⟩, hf'⟩ := Option.isSome_iff_exists.mp hfq
  obtain ⟨⟨arg', words'⟩, hg'⟩ := Option.isSome_iff_exists.mp hgq
  have hmark := mark_starts ((f.split?_iff q arg words).mp hf')
  have hmark' := mark_starts ((g.split?_iff q arg' words').mp hg')
  rcases List.prefix_or_prefix_of_prefix hmark hmark' with h | h
  · exact eq_of_mark_starts f hf g hg h
  · exact (eq_of_mark_starts g hg f hf h).symm

end SearchForm

/-! ## Orders -/

namespace Query

open SearchForm

variable {order : List SearchForm} {f : SearchForm} {q arg words : String}

/-- The query of a text, with criteria tried in an order. -/
def parseIn (order : List SearchForm) (q : String) : Query :=
  (order.findSome? fun f => (f.split? q).map fun (a, w) => ⟨f, a, w⟩).getD
    ⟨.plain, "", Text.trimmed q⟩

/-- The criterion that the text has is found wherever it stands in the order. -/
theorem parseIn_of_split? (horder : order ⊆ criteria) (hf : f ∈ order)
    (h : f.split? q = some (arg, words)) : parseIn order q = ⟨f, arg, words⟩ := by
  have hfound : (order.findSome? fun f => (f.split? q).map fun (a, w) => (⟨f, a, w⟩ : Query)) =
      some ⟨f, arg, words⟩ := by
    refine (findSome?_iff_of_unique fun g hg g' hg' b b' hb hb' => ?_).mpr ⟨f, hf, by rw [h]; rfl⟩
    obtain ⟨p, hp, rfl⟩ := Option.map_eq_some_iff.mp hb
    obtain ⟨p', hp', rfl⟩ := Option.map_eq_some_iff.mp hb'
    obtain rfl := eq_of_split? (horder hg) (horder hg') (Option.isSome_of_eq_some hp)
      (Option.isSome_of_eq_some hp')
    rw [hp, Option.some.injEq] at hp'
    rw [hp']
  rw [parseIn, hfound]
  rfl

theorem parseIn_of_none (h : ∀ f ∈ order, f.split? q = none) :
    parseIn order q = ⟨.plain, "", Text.trimmed q⟩ := by
  have hnone : (order.findSome? fun f => (f.split? q).map fun (a, w) => (⟨f, a, w⟩ : Query)) =
      none :=
    List.findSome?_eq_none_iff.mpr fun f hf => by rw [h f hf]; rfl
  rw [parseIn, hnone]
  rfl

/-- **The order of the criteria does not matter.** A text has at most one of the nine criteria.
Whichever is tried first, the query is the same; it is the trimmed text without any criterion
exactly if the text has none. -/
theorem parse_any_order (q : String) :
    (∀ f ∈ criteria, ∀ g ∈ criteria, (f.split? q).isSome → (g.split? q).isSome → f = g) ∧
      (∀ order, order.Perm criteria → parseIn order q = parse q) ∧
      (parse q = ⟨.plain, "", Text.trimmed q⟩ ↔ ∀ f ∈ criteria, f.split? q = none) := by
  have hparse : parse q = parseIn criteria q := rfl
  refine ⟨fun f hf g hg => eq_of_split? hf hg, fun order horder => ?_, fun h f hf => ?_, ?_⟩
  · rw [hparse]
    by_cases hnone : ∀ f ∈ criteria, f.split? q = none
    · rw [parseIn_of_none hnone, parseIn_of_none fun f hf => hnone f (horder.subset hf)]
    · push Not at hnone
      obtain ⟨f, hf, hsome⟩ := hnone
      obtain ⟨⟨arg, words⟩, h⟩ := Option.ne_none_iff_exists'.mp hsome
      rw [parseIn_of_split? (List.Subset.refl _) hf h,
        parseIn_of_split? horder.subset (horder.symm.subset hf) h]
  · by_contra hsome
    obtain ⟨⟨arg, words⟩, hsplit⟩ := Option.ne_none_iff_exists'.mp hsome
    rw [hparse, parseIn_of_split? (List.Subset.refl _) hf hsplit] at h
    have hplain : .plain ∈ criteria := (Query.mk.inj h).1 ▸ hf
    exact absurd hplain (by decide)
  · exact fun hnone => parseIn_of_none hnone

example : parseIn criteria.reverse "IS:answer borrow" = ⟨.isAnswer, "answer", "borrow"⟩ := by
  decide

end Query

end Forum
