import Forum.Proofs.Conditions
import Forum.Proofs.Searches
import Forum.Proofs.Steady

/-!
# What a search sends

The statements of a search are texts of their own, whatever was typed: all of it is in the values.

* `SearchFilter.SameShape`: filters that ask for the same kinds of things;
* `forms_union`: such filters differ in their values only;
* `spaced_union`: the placeholders of a search can be told from the text around them;
* `Storage.SendsAs`: what is sent has given texts, which have given meanings;
* **`found_sameShape`**: a search sends the texts of its shape, and means what its filter asks for.
-/

namespace Forum

/-- Two filters ask for the same kinds of things. Whether an accepted answer is asked for or its
absence is no value but a condition of its own. -/
structure SearchFilter.SameShape (f g : SearchFilter) : Prop where
  scope : f.scope = g.scope
  words : f.words.length = g.words.length
  phrase : f.phrase.isSome = g.phrase.isSome
  tag : f.tag.isSome = g.tag.isSome
  userId : f.userId.isSome = g.userId.isSome
  minScore : f.minScore.isSome = g.minScore.isSome
  minAnswers : f.minAnswers.isSome = g.minAnswers.isSome
  accepted : f.accepted.isSome = g.accepted.isSome
  hasAccepted : f.hasAccepted = g.hasAccepted

namespace Sql

open Fragment hiding plain

/-! ## Statements of one shape -/

section Forms

variable {α : Type} {p : α → List Fragment}

theorem forms_flatMap (hp : ∀ a b, forms (p a) = forms (p b)) {l m : List α}
    (h : l.length = m.length) : forms (l.flatMap p) = forms (m.flatMap p) := by
  induction l generalizing m with
  | nil =>
    obtain rfl : m = [] := List.length_eq_zero_iff.mp h.symm
    rfl
  | cons a l ih =>
    obtain ⟨b, m, rfl⟩ := List.exists_cons_of_length_eq_add_one h.symm
    rw [List.flatMap_cons, List.flatMap_cons, forms_append, forms_append, hp a b,
      ih (Nat.succ.inj h)]

theorem forms_criterion (hp : ∀ a b, forms (p a) = forms (p b)) {o q : Option α}
    (h : o.isSome = q.isSome) : forms (criterion o p) = forms (criterion q p) := by
  cases o with
  | none =>
    obtain rfl : q = none := Option.isSome_eq_false_iff.mp h.symm |> Option.isNone_iff_eq_none.mp
    rfl
  | some a =>
    obtain ⟨b, rfl⟩ := Option.isSome_iff_exists.mp h.symm
    exact hp a b

theorem forms_intercalate (hp : ∀ a b, forms (p a) = forms (p b)) (sep : List Fragment)
    {l m : List α} (h : l.length = m.length) :
    forms (sep.intercalate (l.map p)) = forms (sep.intercalate (m.map p)) := by
  cases l with
  | nil =>
    obtain rfl : m = [] := List.length_eq_zero_iff.mp h.symm
    rfl
  | cons a l =>
    obtain ⟨b, m, rfl⟩ := List.exists_cons_of_length_eq_add_one h.symm
    rw [List.map_cons, List.map_cons, Filled.intercalate_cons, Filled.intercalate_cons,
      forms_append, forms_append, hp a b, List.flatMap_map, List.flatMap_map]
    have hsep : ∀ a b, forms (sep ++ p a) = forms (sep ++ p b) := by
      intro a b
      rw [forms_append, forms_append, hp a b]
    rw [forms_flatMap hsep (Nat.succ.inj h)]

end Forms

variable {f g : SearchFilter}

theorem forms_relevance (h : f.words.length = g.words.length) :
    forms (relevance f) = forms (relevance g) := by
  have hempty : f.words.isEmpty = g.words.isEmpty := by
    rw [Bool.eq_iff_iff, List.isEmpty_iff_length_eq_zero, List.isEmpty_iff_length_eq_zero, h]
  have hits := forms_intercalate (p := fun w => [.plain "CASE WHEN q.title ILIKE ",
    textParam (likePattern w), .plain " THEN 1 ELSE 0 END"]) (fun _ _ => rfl) [.plain " + "] h
  unfold relevance
  rw [hempty]
  split
  · rfl
  · change forms (.plain "(" :: (List.intercalate _ _) ++ _) =
      forms (.plain "(" :: (List.intercalate _ _) ++ _)
    simp only [List.cons_append, forms_cons, forms_append, hits]

theorem length_terms (h : f.SameShape g) : (terms f).length = (terms g).length := by
  have hphrase : f.phrase.toList.length = g.phrase.toList.length := by
    rw [Option.length_toList, Option.length_toList, h.phrase]
  rw [terms, terms, List.length_append, List.length_append, h.words, hphrase]

theorem forms_questions (h : f.SameShape g) : forms (questions f) = forms (questions g) := by
  rw [questions, questions, h.hasAccepted]
  simp only [forms_append, List.cons_append, forms_cons]
  rw [forms_relevance h.words, questionText, questionText,
    forms_flatMap (fun _ _ => rfl) (length_terms h), tagged, tagged,
    forms_criterion (fun _ _ => rfl) h.tag, forms_criterion (fun _ _ => rfl) h.userId,
    forms_criterion (fun _ _ => rfl) h.minScore, forms_criterion (fun _ _ => rfl) h.minAnswers]

theorem forms_answers (h : f.SameShape g) : forms (answers f) = forms (answers g) := by
  rw [answers, answers]
  simp only [forms_append, List.cons_append, forms_cons]
  rw [forms_relevance h.words, answerText, answerText,
    forms_flatMap (fun _ _ => rfl) (length_terms h), tagged, tagged,
    forms_criterion (fun _ _ => rfl) h.tag, forms_criterion (fun _ _ => rfl) h.userId,
    forms_criterion (fun _ _ => rfl) h.minScore, forms_criterion (fun _ _ => rfl) h.accepted]

theorem forms_union (h : f.SameShape g) : forms (union f) = forms (union g) := by
  rw [union, union, h.scope]
  cases g.scope with
  | question => exact forms_questions h
  | answer => exact forms_answers h
  | all =>
    change forms (questions f ++ .plain " UNION ALL " :: answers f) =
      forms (questions g ++ .plain " UNION ALL " :: answers g)
    rw [forms_append, forms_append, forms_cons, forms_cons, forms_questions h, forms_answers h]

/-! ## Placeholders of a search -/

section Spaced

variable {α : Type} {p : α → List Fragment}

theorem spaced_criterion (hp : ∀ a, spaced true (forms (p a)) = true) (o : Option α) :
    spaced true (forms (criterion o p)) = true := by
  cases o with
  | none => rfl
  | some a => exact hp a

theorem spaced_pieces (hp : ∀ a, spaced true (forms (p a)) = true) (l : List α) :
    spaced true (forms (l.flatMap p)) = true := by
  have hflat : forms (l.flatMap p) = l.flatMap fun a => forms (p a) := List.map_flatMap
  rw [hflat]
  exact spaced_flatMap fun a _ => hp a

end Spaced

theorem spaced_relevance (f : SearchFilter) : spaced false (forms (relevance f)) = true := by
  unfold relevance
  cases f.words with
  | nil =>
    have hzero : spaced false [some "0"] = true := by decide +kernel
    exact hzero
  | cons w ws =>
    have hfirst : spaced false [some "(", some "CASE WHEN q.title ILIKE ", none,
        some " THEN 1 ELSE 0 END"] = true := by decide +kernel
    have hnext : spaced true [some " + ", some "CASE WHEN q.title ILIKE ", none,
        some " THEN 1 ELSE 0 END"] = true := by decide +kernel
    have hclose : spaced true [some ")"] = true := by decide +kernel
    rw [List.isEmpty_cons, if_neg Bool.false_ne_true]
    change spaced false (forms (.plain "(" :: (List.intercalate _ (_ :: List.map _ ws)) ++
      [.plain ")"])) = true
    rw [Filled.intercalate_cons, List.flatMap_map, ← List.cons_append, forms_append, forms_append]
    refine spaced_append (spaced_append hfirst (spaced_pieces ?_ ws)) hclose
    exact fun _ => hnext

theorem spacedText_columns (b : Branch) : spacedText false b.columns = true := by
  cases b with
  | question =>
    change spacedText false (_ ++ _) = true
    refine spacedText_append (spacedText_append (spacedText_append (spacedText_append ?_ ?_)
      ?_) ?_) ?_
    all_goals decide +kernel
  | answer =>
    change spacedText false (_ ++ _) = true
    refine spacedText_append (spacedText_append (spacedText_append ?_ ?_) ?_) ?_
    all_goals decide +kernel

theorem spaced_tagged (f : SearchFilter) : spaced true (forms (tagged f)) = true := by
  have htag : spaced true [some
      (" AND EXISTS (SELECT 1 FROM tag_rel tr JOIN tag tg ON tg.id = tr.tag_id " ++
        "WHERE tr.object_id = q.id AND tg.slug_name = "), none, some ")"] = true := by
    decide +kernel
  refine spaced_criterion ?_ f.tag
  exact fun _ => htag

theorem spaced_questions (f : SearchFilter) : spaced false (forms (questions f)) = true := by
  have hsource : spaced true
      [some " AS relevance FROM question q WHERE q.status <> 'deleted'"] = true := by
    decide +kernel
  have hterm : spaced true [some " AND (q.title ILIKE ", none, some " OR q.original_text ILIKE ",
      none, some ")"] = true := by decide +kernel
  have huser : spaced true [some " AND q.user_id = ", none] = true := by decide +kernel
  have hscore : spaced true [some " AND q.vote_count >= ", none] = true := by decide +kernel
  have hanswers : spaced true [some " AND q.answer_count >= ", none] = true := by decide +kernel
  have haccepted (yes : Bool) : spaced true [some (if yes then
      " AND q.accepted_answer_id IS NOT NULL" else " AND q.accepted_answer_id IS NULL")] =
        true := by
    revert yes
    decide +kernel
  have hhead : spaced false (forms (.plain Branch.question.columns :: relevance f)) = true :=
    (Bool.and_eq_true _ _).mpr ⟨spacedText_columns .question, spaced_relevance f⟩
  unfold questions
  simp only [forms_append]
  refine spaced_append (spaced_append (spaced_append (spaced_append (spaced_append (spaced_append
    (spaced_append ?_ hsource) ?_) (spaced_tagged f)) ?_) ?_) ?_) ?_
  · exact hhead
  · apply spaced_pieces
    exact fun _ => hterm
  · apply spaced_criterion
    exact fun _ => huser
  · apply spaced_criterion
    exact fun _ => hscore
  · apply spaced_criterion
    exact fun _ => hanswers
  · apply spaced_criterion
    exact haccepted

theorem spaced_answers (f : SearchFilter) : spaced false (forms (answers f)) = true := by
  have hsource : spaced true [some
      (" AS relevance FROM answer a JOIN question q ON q.id = a.question_id " ++
        "WHERE a.status <> 'deleted' AND q.status <> 'deleted'")] = true := by
    decide +kernel
  have hterm : spaced true [some " AND a.original_text ILIKE ", none] = true := by decide +kernel
  have huser : spaced true [some " AND a.user_id = ", none] = true := by decide +kernel
  have hscore : spaced true [some " AND a.vote_count >= ", none] = true := by decide +kernel
  have haccepted : spaced true [some " AND a.accepted = ", none] = true := by decide +kernel
  have hhead : spaced false (forms (.plain Branch.answer.columns :: relevance f)) = true :=
    (Bool.and_eq_true _ _).mpr ⟨spacedText_columns .answer, spaced_relevance f⟩
  unfold answers
  simp only [forms_append]
  refine spaced_append (spaced_append (spaced_append (spaced_append (spaced_append
    (spaced_append ?_ hsource) ?_) (spaced_tagged f)) ?_) ?_) ?_
  · exact hhead
  · apply spaced_pieces
    exact fun _ => hterm
  · apply spaced_criterion
    exact fun _ => huser
  · apply spaced_criterion
    exact fun _ => hscore
  · apply spaced_criterion
    exact fun _ => haccepted

theorem spaced_union (f : SearchFilter) : spaced false (forms (union f)) = true := by
  unfold union
  cases f.scope with
  | question => exact spaced_questions f
  | answer => exact spaced_answers f
  | all =>
    have hboth : spacedText true " UNION ALL " = true := by decide +kernel
    change spaced false (forms (questions f ++ .plain " UNION ALL " :: answers f)) = true
    rw [forms_append]
    exact spaced_append (spaced_questions f)
      ((Bool.and_eq_true _ _).mpr ⟨hboth, spaced_answers f⟩)

theorem spaced_countMatches (f : SearchFilter) :
    spaced false (forms (countMatches f)) = true := by
  have hopen : spacedText false "SELECT COUNT(*) FROM (" = true := by decide +kernel
  have hclose : spaced true [some ") t"] = true := by decide +kernel
  have hinner : spaced false (forms (.plain "SELECT COUNT(*) FROM (" :: union f)) = true :=
    (Bool.and_eq_true _ _).mpr ⟨hopen, spaced_union f⟩
  rw [countMatches, forms_append]
  exact spaced_append hinner hclose

theorem spaced_pageOfMatches (f : SearchFilter) (order : SearchOrder) (size start : Int) :
    spaced false (forms (pageOfMatches f order size start)) = true := by
  have hopen : spacedText false "SELECT t.* FROM (" = true := by decide +kernel
  have hclose (o : SearchOrder) : spaced true [some ") t", some (orderClause o), some " LIMIT ",
      none, some " OFFSET ", none] = true := by
    cases o <;> decide +kernel
  have hinner : spaced false (forms (.plain "SELECT t.* FROM (" :: union f)) = true :=
    (Bool.and_eq_true _ _).mpr ⟨hopen, spaced_union f⟩
  rw [pageOfMatches, forms_append]
  exact spaced_append hinner (hclose order)

/-! ## What the statements mean -/

section Meaning

open Filled

/-- What a search looks at: all that the selections of its scope take. -/
def selection (f : SearchFilter) : Filled :=
  (plain " UNION ALL ").intercalate ((branches f.scope).map fun b =>
    b.head f.words ++ plain " WHERE " ++ (plain " AND ").intercalate (b.clause f))

/-- The count of what a search looks at. -/
def selectionCount (f : SearchFilter) : Filled :=
  plain "SELECT COUNT(*) FROM (" ++ selection f ++ plain ") t"

/-- So many results from one on, in an order. -/
def selectionPage (f : SearchFilter) (order : SearchOrder) (size start : Int) : Filled :=
  plain "SELECT t.* FROM (" ++ selection f ++ plain ") t" ++ plain (orderClause order) ++
    plain " LIMIT " ++ value (.int64 size) ++ plain " OFFSET " ++ value (.int64 start)

theorem filled_union_eq (f : SearchFilter) : filled (union f) = selection f := by
  rw [filled_union, selection]
  simp only [filled_select]

theorem filled_countMatches (f : SearchFilter) : filled (countMatches f) = selectionCount f := by
  rw [countMatches, filled_append, filled_plain, filled_union_eq]
  rfl

theorem filled_pageOfMatches (f : SearchFilter) (order : SearchOrder) (size start : Int) :
    filled (pageOfMatches f order size start) = selectionPage f order size start := by
  rw [pageOfMatches, filled_append, filled_plain, filled_union_eq, selectionPage]
  simp only [filled_plain, filled_nil, intParam, filled_param, List.append_assoc, List.append_nil]

end Meaning

end Sql

/-! ## What is sent -/

namespace Storage

open Sql

variable {t : Transcript StorageOp.Answer}

/-- The statements that a search can send: the count, and then the page. -/
def searchStatements (f : SearchFilter) (page size : Int) (order : SearchOrder) :
    List Statement :=
  [.countMatches f, .pageOfMatches f order size (pageStart page size)]

/-- **The statements of a search.** -/
theorem statements_found {f : SearchFilter} {page size : Int} {order : SearchOrder}
    {r : Except ServiceError (List SearchItem × Int)}
    (h : (found f page size order).run.Plays t r) :
    statements t ≠ [] ∧ statements t <+: searchStatements f page size order := by
  cases plays_found.mp h with
  | noTotal | nothing => exact ⟨List.cons_ne_nil _ _, [_], rfl⟩
  | paged => exact ⟨List.cons_ne_nil _ _, [], rfl⟩

/-- What is sent begins with the first of some texts. Each text has a placeholder for each of its
values, numbered from left to right, and with the values in these places it has a meaning. -/
def SendsAs (texts : List String) (meant : List Filled) (t : Transcript StorageOp.Answer) : Prop :=
  statements t ≠ [] ∧ (statements t).map Statement.text <+: texts ∧
    (∀ s ∈ statements t, placeholders s.text = List.range' 1 s.params.length) ∧
    (statements t).map (fun s => fill s.params s.text) <+: meant

theorem placeholders_searchStatements {f : SearchFilter} {page size : Int} {order : SearchOrder}
    {s : Statement} (hs : s ∈ searchStatements f page size order) :
    placeholders s.text = List.range' 1 s.params.length := by
  rw [searchStatements, List.mem_cons, List.mem_singleton] at hs
  rcases hs with rfl | rfl
  · exact Fragment.placeholders_text (spaced_countMatches f)
  · exact Fragment.placeholders_text (spaced_pageOfMatches f order size _)

theorem fill_searchStatements (f : SearchFilter) (page size : Int) (order : SearchOrder) :
    (searchStatements f page size order).map (fun s => fill s.params s.text) =
      [selectionCount f, selectionPage f order size (pageStart page size)] := by
  have hcount := Fragment.fill_text (spaced_countMatches f)
  have hpage := Fragment.fill_text (spaced_pageOfMatches f order size (pageStart page size))
  rw [filled_countMatches] at hcount
  rw [filled_pageOfMatches] at hpage
  rw [← hcount, ← hpage]
  rfl

/-- **A search sends** its statements with their values. -/
theorem sendsAs_found {f : SearchFilter} {page size : Int} {order : SearchOrder}
    {r : Except ServiceError (List SearchItem × Int)}
    (h : (found f page size order).run.Plays t r) :
    SendsAs ((searchStatements f page size order).map Statement.text)
      [selectionCount f, selectionPage f order size (pageStart page size)] t := by
  obtain ⟨hne, hsent⟩ := statements_found h
  refine ⟨hne, hsent.map _, fun s hs => placeholders_searchStatements (hsent.subset hs), ?_⟩
  rw [← fill_searchStatements]
  exact hsent.map _

theorem text_searchStatements {f g : SearchFilter} (h : f.SameShape g)
    (page size page' size' : Int) (order : SearchOrder) :
    (searchStatements f page size order).map Statement.text =
      (searchStatements g page' size' order).map Statement.text := by
  have hcount : Fragment.forms (countMatches f) = Fragment.forms (countMatches g) := by
    simp only [countMatches, Fragment.forms_append, List.cons_append, Fragment.forms_cons,
      forms_union h]
  have hpage : Fragment.forms (pageOfMatches f order size (pageStart page size)) =
      Fragment.forms (pageOfMatches g order size' (pageStart page' size')) := by
    simp only [pageOfMatches, Fragment.forms_append, List.cons_append, Fragment.forms_cons,
      forms_union h]
    rfl
  change [Fragment.text (countMatches f), Fragment.text (pageOfMatches f order size _)] = _
  rw [Fragment.text_congr hcount, Fragment.text_congr hpage]
  rfl

/-- **What is typed changes no text.** Two searches of one shape and one order send the same texts,
whatever their values and pages, and each value stands where its filter asks for it. -/
theorem found_sameShape {f g : SearchFilter} (h : f.SameShape g) (page size page' size' : Int)
    (order : SearchOrder) :
    ∃ texts : List String,
      (∀ t r, (found f page size order).run.Plays t r →
        SendsAs texts [selectionCount f, selectionPage f order size (pageStart page size)] t) ∧
      (∀ t r, (found g page' size' order).run.Plays t r →
        SendsAs texts [selectionCount g, selectionPage g order size' (pageStart page' size')]
          t) := by
  refine ⟨(searchStatements f page size order).map Statement.text,
    fun t r hf => sendsAs_found hf, fun t r hg => ?_⟩
  rw [text_searchStatements h page size page' size' order]
  exact sendsAs_found hg

/-- Words and a tag that could pass for parts of a statement. -/
def hostile : SearchFilter where
  scope := .question
  words := ["'; DROP TABLE question; --", "$1"]
  tag := some "go') OR 1 = 1 --"

/-- Words and a tag that could not. -/
def harmless : SearchFilter where
  scope := .question
  words := ["lean", "proof"]
  tag := some "go"

theorem found_hostile : hostile.SameShape harmless ∧ ∃ texts : List String,
    (∀ t r, (found hostile 1 20 .newest).run.Plays t r →
      SendsAs texts [selectionCount hostile, selectionPage hostile .newest 20 (pageStart 1 20)] t) ∧
    (∀ t r, (found harmless 3 5 .newest).run.Plays t r →
      SendsAs texts [selectionCount harmless, selectionPage harmless .newest 5 (pageStart 3 5)]
        t) := by
  have h : hostile.SameShape harmless := ⟨rfl, rfl, rfl, rfl, rfl, rfl, rfl, rfl, rfl⟩
  exact ⟨h, found_sameShape h 1 20 3 5 .newest⟩

end Storage

end Forum
