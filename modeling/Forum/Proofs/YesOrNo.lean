import Forum.Proofs.Queries

/-!
# Criteria that ask yes or no

`isaccepted:` and `hasaccepted:` take one of two words, in either case of their letters. Three rules
of case meet here: the words are matched under case folding, the argument has the 26 capitals made
small, and the filter compares it with `yes`.

* `map_lowerAscii_eq_iff`: the first two rules differ in the long s alone;
* `SearchForm.yesNoKeyword`, `SearchForm.answer?`: the two forms, and what they set in a filter;
* `Search.AnswerKept`: the filter asks for the answer that the query spells;
* **`answerKept_iff`**: the answer is kept exactly when no long s stands for its letter;
* **`not_answerKept_long_s`**: a `yes` with a long s is taken for `no`.
-/

namespace Forum

open Text

/-- The 26 capitals made small are a keyword that has no `k` where no long s stands for its `s`. -/
theorem Text.map_lowerAscii_eq_iff {v : String} {value : List Char} (hv : IsKeyword v)
    (hk : 'k' ∉ v.toList) (h : Spells v value) :
    value.map lowerAscii = v.toList ↔ '\u017f' ∉ value := by
  have hfold : value.map fold = v.toList := (spells_iff hv).mp h
  constructor
  · intro hlower hlong
    have hmem : lowerAscii '\u017f' ∈ v.toList := hlower ▸ List.mem_map_of_mem hlong
    exact absurd (hv _ hmem).1 (by decide)
  · intro hlong
    rw [← hfold]
    refine List.map_congr_left fun c hc => ?_
    have hkelvin : c ≠ '\u212a' := by
      rintro rfl
      exact hk (hfold ▸ List.mem_map_of_mem hc)
    have hs : c ≠ '\u017f' := fun h => hlong (h ▸ hc)
    rw [fold, if_neg hs, if_neg hkelvin]

/-- The keywords of the two forms that ask yes or no. -/
def SearchForm.yesNoKeyword : SearchForm → Option String
  | accepted => some "isaccepted:"
  | hasAccepted => some "hasaccepted:"
  | _ => none

/-- The answer that a filter asks for, in the field of a form. -/
def SearchForm.answer? : SearchForm → SearchFilter → Option Bool
  | accepted, f => f.accepted
  | hasAccepted, f => f.hasAccepted
  | _, _ => none

namespace Search

/-- The answer that a query spells is kept: its argument is one of the two words, and the filter
asks for yes, or for no, exactly where that is what is spelt. -/
structure AnswerKept (q : Query) (value : List Char) (f : SearchFilter) : Prop where
  arg : q.arg = "yes" ∨ q.arg = "no"
  yes : q.form.answer? f = some true ↔ Spells "yes" value
  no : q.form.answer? f = some false ↔ Spells "no" value

variable {text keyword : String}

theorem readsValue_of_yesNo (h : (Query.parse text).form.yesNoKeyword = some keyword) :
    SearchForm.ReadsValue keyword ["yes", "no"] (trim text.toList) (Query.parse text).arg.toList
      (Query.parse text).words.toList := by
  rcases Query.parse_cases text with hplain | ⟨f, arg, words, hsplit, hparse⟩
  · rw [hplain] at h
    cases h
  · rw [hparse] at h ⊢
    have hreads := (f.split?_iff text arg words).mp hsplit
    cases f with
    | accepted | hasAccepted =>
      cases h
      exact hreads
    | _ => cases h

theorem filterOf_yesNo (h : (Query.parse text).form.yesNoKeyword = some keyword) (w : World)
    (asker : Option String) : ∃ f, filterOf w text asker = .ok (some f) ∧
      (Query.parse text).form.answer? f = some (decide ((Query.parse text).arg = "yes")) := by
  unfold filterOf filter?
  cases hform : (Query.parse text).form with
  | accepted | hasAccepted => exact ⟨_, rfl, rfl⟩
  | _ =>
    rw [hform] at h
    cases h

theorem not_spells_no {value : List Char} (h : Spells "yes" value) : ¬Spells "no" value := by
  intro hno
  have hwords : "yes".toList = "no".toList :=
    ((spells_iff (by decide)).mp h).symm.trans ((spells_iff (by decide)).mp hno)
  exact absurd hwords (by decide)

theorem answerKept_iff_arg {q : Query} {value : List Char} {f : SearchFilter} {v : String}
    (hanswer : q.form.answer? f = some (decide (q.arg = "yes"))) (hv : v ∈ ["yes", "no"])
    (hvalue : Spells v value) : AnswerKept q value f ↔ q.arg = v := by
  constructor
  · rintro ⟨harg, hyes, hno⟩
    rw [hanswer] at hyes hno
    rcases List.mem_pair.mp hv with rfl | rfl
    · exact of_decide_eq_true (Option.some.inj (hyes.mpr hvalue))
    · have hne : q.arg ≠ "yes" := of_decide_eq_false (Option.some.inj (hno.mpr hvalue))
      exact harg.resolve_left hne
  · rintro rfl
    rcases List.mem_pair.mp hv with hq | hq <;> rw [hq] at hvalue hanswer
    · refine ⟨.inl hq, by simp [hanswer, hvalue], ?_⟩
      simp [hanswer, not_spells_no hvalue]
    · refine ⟨.inr hq, ?_, by simp [hanswer, hvalue]⟩
      have hyes : ¬Spells "yes" value := fun h => not_spells_no h hvalue
      simp [hanswer, hyes]

/-- **The answer of a query that asks yes or no is kept** exactly when no long s stands for a letter
of it. Beside the blanks at its ends, the query is the keyword, the answer, and blanks and words. -/
theorem answerKept_iff (h : (Query.parse text).form.yesNoKeyword = some keyword) (w : World)
    (asker : Option String) : ∃ spelt value tail f,
      IsTrimmed text.toList (spelt ++ (value ++ tail)) ∧ Spells keyword spelt ∧
        (Spells "yes" value ∨ Spells "no" value) ∧ Ended tail (Query.parse text).words.toList ∧
        filterOf w text asker = .ok (some f) ∧
        (AnswerKept (Query.parse text) value f ↔ '\u017f' ∉ value) := by
  obtain ⟨spelt, value, tail, htext, hspelt, ⟨v, hv, hvalue⟩, harg, hended⟩ :=
    readsValue_of_yesNo h
  obtain ⟨f, hf, hanswer⟩ := filterOf_yesNo h w asker
  have hwords : ∀ v ∈ ["yes", "no"], IsKeyword v ∧ 'k' ∉ v.toList := by decide
  have heither : Spells "yes" value ∨ Spells "no" value := by
    rcases List.mem_pair.mp hv with rfl | rfl
    · exact .inl hvalue
    · exact .inr hvalue
  refine ⟨spelt, value, tail, f, htext ▸ isTrimmed_trim text.toList, hspelt, heither, hended, hf,
    ?_⟩
  rw [answerKept_iff_arg hanswer hv hvalue, ← String.toList_inj, harg,
    map_lowerAscii_eq_iff (hwords v hv).1 (hwords v hv).2 hvalue]

/-- A world in which no call succeeds. -/
def mute : World where
  answer _ := .error (.internal "")
  accepts _ := false

theorem answerKept_iff_capitals :
    (Query.parse "HasAccepted:YES tokio").form.yesNoKeyword = some "hasaccepted:" ∧
      ∃ spelt value tail f, IsTrimmed "HasAccepted:YES tokio".toList (spelt ++ (value ++ tail)) ∧
        Spells "hasaccepted:" spelt ∧ (Spells "yes" value ∨ Spells "no" value) ∧
        Ended tail (Query.parse "HasAccepted:YES tokio").words.toList ∧
        filterOf mute "HasAccepted:YES tokio" none = .ok (some f) ∧
        (AnswerKept (Query.parse "HasAccepted:YES tokio") value f ↔ '\u017f' ∉ value) :=
  ⟨by decide, answerKept_iff (by decide) mute none⟩

/-- **A `yes` with a long s is taken for `no`**: it is matched, but the argument is neither word. -/
theorem not_answerKept_long_s :
    (Query.parse "isaccepted:ye\u017f").form = .accepted ∧
      "isaccepted:ye\u017f".toList = "isaccepted:".toList ++ "ye\u017f".toList ∧
      Spells "yes" "ye\u017f".toList ∧ ¬Spells "no" "ye\u017f".toList ∧
      (Query.parse "isaccepted:ye\u017f").arg = "ye\u017f" ∧
      filterOf mute "isaccepted:ye\u017f" none =
        .ok (some { scope := .answer, accepted := some false }) ∧
      ¬AnswerKept (Query.parse "isaccepted:ye\u017f") "ye\u017f".toList
        { scope := .answer, accepted := some false } := by
  have hyes : Spells "yes" "ye\u017f".toList := (spells_iff (by decide)).mpr (by decide)
  refine ⟨by decide, by decide, hyes, not_spells_no hyes, by decide, by rfl, fun h => ?_⟩
  exact absurd h.arg (by decide)

end Search

end Forum
